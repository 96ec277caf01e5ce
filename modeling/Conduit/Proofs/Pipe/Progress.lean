import Conduit.Proofs.Pipe.Passage
set_option autoImplicit false

namespace Conduit.Pipe

section

variable {pipe : Pipe} {data : Bytes}

theorem accepted_pos (going : pipe.ended = false) (something : data ≠ []) (room : 0 < pipe.room) :
    0 < pipe.accepted data := by
  have offered := List.length_pos_iff.mpr something
  rw [accepted, going]
  exact Nat.lt_min.mpr ⟨offered, room⟩

theorem size_write_pos (going : pipe.ended = false) (something : data ≠ [])
    (roomy : 0 < pipe.capacity) : 0 < (pipe.write data).2.size := by
  rw [size_write]
  -- A pipe without room is full.
  by_cases full : pipe.room = 0
  next =>
    unfold room at full
    omega
  next =>
    have accepted := accepted_pos going something (Nat.pos_of_ne_zero full)
    omega

theorem size_pos_of_ended (ended : pipe.ended = true) (going : pipe.atEnd = false) :
    0 < pipe.size := by
  simp only [atEnd, ended, isEmpty, Bool.true_and, beq_eq_false_iff_ne] at going
  omega

end

namespace Transfer

variable {payload : Bytes} {transfer next : Transfer} {writeChunk readChunk : Nat}

theorem offer_ne_nil (something : transfer.pending ≠ []) (chunked : 0 < writeChunk) :
    transfer.pending.take writeChunk ≠ [] := by
  rw [Ne, List.take_eq_nil_iff]
  exact not_or.mpr ⟨Nat.ne_of_gt chunked, something⟩

-- What the producer has got rid of and what the consumer has got is never taken back.
structure Along (transfer next : Transfer) : Prop where
  capacity_eq : next.pipe.capacity = transfer.pipe.capacity
  pending : next.pending <:+ transfer.pending
  received : transfer.received <+: next.received

theorem Along.refl (transfer : Transfer) : transfer.Along transfer :=
  ⟨rfl, List.suffix_rfl, List.prefix_rfl⟩

theorem Along.trans {last : Transfer} (first : transfer.Along next) (second : next.Along last) :
    transfer.Along last :=
  ⟨second.capacity_eq.trans first.capacity_eq, second.pending.trans first.pending,
    first.received.trans second.received⟩

theorem check_along (transfer : Transfer) : transfer.Along transfer.check :=
  ⟨rfl, List.suffix_rfl, List.prefix_rfl⟩

namespace Exact

theorem produce_along (holds : transfer.Exact payload) (chunk : Nat) :
    transfer.Along (transfer.produce chunk) := by
  unfold Transfer.produce
  split
  next => exact .refl transfer
  split
  next => exact ⟨rfl, List.suffix_rfl, List.prefix_rfl⟩
  next => exact ⟨capacity_write holds.sound _, List.drop_suffix _ _, List.prefix_rfl⟩

theorem collect_along (holds : transfer.Exact payload) (chunk : Nat) :
    transfer.Along (transfer.collect chunk) := by
  refine ⟨?_, List.suffix_rfl, ?_⟩
  next =>
    show (transfer.pipe.read chunk).2.capacity = _
    rw [read_eq holds.sound, capacity_discard]
  next =>
    rw [received_collect]
    exact List.prefix_append _ _

theorem length_received_collect (holds : transfer.Exact payload) (chunk : Nat) :
    (transfer.collect chunk).received.length =
      transfer.received.length + min chunk transfer.pipe.size := by
  rw [received_collect, List.length_append, length_peek holds.sound]

theorem measure_eq (holds : transfer.Exact payload) :
    transfer.measure + transfer.received.length = payload.length + transfer.pending.length := by
  have bytes := congrArg List.length holds.bytes
  have size := length_contents holds.sound
  simp only [List.length_append] at bytes
  unfold measure
  omega

theorem measure_add (holds : transfer.Exact payload) (after : next.Exact payload)
    (along : transfer.Along next) :
    next.measure + (transfer.pending.length - next.pending.length) +
      (next.received.length - transfer.received.length) = transfer.measure := by
  have before := holds.measure_eq
  have later := after.measure_eq
  have pending := along.pending.length_le
  have received := along.received.length_le
  omega

theorem length_pending_produce_lt (holds : transfer.Exact payload)
    (producing : transfer.producing = true) (something : transfer.pending ≠ [])
    (room : 0 < transfer.pipe.room) (chunked : 0 < writeChunk) :
    (transfer.produce writeChunk).pending.length < transfer.pending.length := by
  have unended : transfer.pipe.ended = false := by simp [holds.ended_eq, producing]
  have accepted := accepted_pos unended (offer_ne_nil something chunked) room
  have pending := List.length_pos_iff.mpr something
  rw [Transfer.produce, if_neg (by simp [producing]), if_neg (by simpa using something)]
  show (transfer.pending.drop (transfer.pipe.write (transfer.pending.take writeChunk)).1).length < _
  rw [write_fst, List.length_drop]
  omega

theorem size_produce_pos (holds : transfer.Exact payload) (roomy : 0 < transfer.pipe.capacity)
    (chunked : 0 < writeChunk) (going : (transfer.produce writeChunk).pipe.atEnd = false) :
    0 < (transfer.produce writeChunk).pipe.size := by
  unfold Transfer.produce at going ⊢
  split
  next gone =>
    rw [if_pos gone] at going
    exact size_pos_of_ended (by rw [holds.ended_eq, gone]) going
  next producing =>
    rw [if_neg producing] at going
    split
    next nothing =>
      rw [if_pos nothing] at going
      exact size_pos_of_ended rfl going
    next something =>
      have unended : transfer.pipe.ended = false := by simpa [producing] using holds.ended_eq
      exact size_write_pos unended (offer_ne_nil (by simpa using something) chunked) roomy

theorem round (holds : transfer.Exact payload) (roomy : 0 < transfer.pipe.capacity)
    (written : 0 < writeChunk) (taken : 0 < readChunk) :
    let next := (transfer.produce writeChunk).consume readChunk
    next.Exact payload ∧ 0 < next.pipe.capacity ∧
      (next.finished = false → next.measure < transfer.measure) := by
  have produced := holds.produce writeChunk
  have along := holds.produce_along writeChunk
  have checked := produced.check
  simp only [consume]
  split
  next finished =>
    refine ⟨checked, ?_, fun unfinished => absurd finished (by simp [unfinished])⟩
    exact along.capacity_eq ▸ roomy
  next unfinished =>
    have last := checked.collect_along readChunk
    have all := (along.trans (check_along _)).trans last
    refine ⟨checked.collect readChunk, all.capacity_eq ▸ roomy, fun _ => ?_⟩
    -- The consumer has looked and not seen the end, so there is something for it to read.
    have going : (transfer.produce writeChunk).pipe.atEnd = false :=
      (Bool.or_eq_false_iff.mp (Bool.eq_false_iff.mpr unfinished)).2
    have held := holds.size_produce_pos roomy written going
    have read := checked.length_received_collect readChunk
    have before := (along.trans (check_along _)).received.length_le
    have paid := holds.measure_add (checked.collect readChunk) all
    have some : 0 < min readChunk (transfer.produce writeChunk).check.pipe.size :=
      Nat.lt_min.mpr ⟨taken, held⟩
    omega

end Exact

theorem rounds_finished (holds : transfer.Exact payload) (roomy : 0 < transfer.pipe.capacity)
    (written : 0 < writeChunk) (taken : 0 < readChunk) {count : Nat}
    (enough : transfer.measure < count) :
    (rounds writeChunk readChunk count transfer).finished = true ∧
      (rounds writeChunk readChunk count transfer).received = payload := by
  -- A round that is not the last makes the measure smaller, so there are rounds enough.
  induction count generalizing transfer with
  | zero => omega
  | succ count ih =>
    obtain ⟨exact, roomy, less⟩ := holds.round roomy written taken
    unfold rounds
    simp only
    split
    next finished => exact ⟨finished, exact.received_eq (exact.finished finished)⟩
    next unfinished =>
      have less := less (by simpa using unfinished)
      exact ih exact roomy (by omega)

end Transfer

namespace Move

variable {payload : Bytes} {transfer : Transfer}

theorem apply_along (holds : transfer.Exact payload) (move : Move) :
    transfer.Along (move.apply transfer) := by
  cases move with
  | offer chunk => exact holds.produce_along chunk
  | leave => exact holds.produce_along 0
  | look => exact transfer.check_along
  | collect chunk => exact holds.collect_along chunk

theorem foldl_along (holds : transfer.Exact payload) (schedule : List Move) :
    (schedule.foldl apply transfer).Exact payload ∧ transfer.Along (schedule.foldl apply transfer) := by
  induction schedule generalizing transfer with
  | nil => exact ⟨holds, .refl transfer⟩
  | cons move later ih =>
    obtain ⟨last, along⟩ := ih (move.apply_exact holds)
    exact ⟨last, (move.apply_along holds).trans along⟩

end Move

namespace Passage

variable {payload : Bytes} {passage next : Passage} {transfer : Transfer}
  {writeChunk readChunk : Nat}

def measure (passage : Passage) : Nat :=
  2 * passage.pending.length + (passage.pipe?.map (·.size)).getD 0

structure Pays (passage next : Passage) : Prop where
  measure_le : next.measure ≤ passage.measure
  accepted : next.pending.length < passage.pending.length → next.measure < passage.measure
  received : passage.received.length < next.received.length → next.measure < passage.measure

-- Where the consumer is in its loop.
def After (passage : Passage) : Move → Stage → Prop
  | .offer _, stage | .leave, stage => stage = passage.stage
  | .look, stage => stage ≠ .looking
  | .collect _, stage => stage = .looking

theorem step_after {move : Move} (stepped : passage.step move = some next) :
    passage.After move next.stage := by
  cases move with
  | offer chunk =>
    simp only [step] at stepped
    split at stepped
    next =>
      obtain ⟨_, _, same⟩ := Option.bind_eq_some_iff.mp stepped
      cases same
      rfl
    next => cases stepped
  | leave =>
    simp only [step] at stepped
    split at stepped
    next =>
      cases stepped
      rfl
    next => cases stepped
  | look =>
    simp only [step] at stepped
    split at stepped
    next =>
      obtain ⟨pipe, _, same⟩ := Option.bind_eq_some_iff.mp stepped
      cases same
      show (if pipe.atEnd = true then Stage.finished else .reading) ≠ .looking
      split <;> simp
    next => cases stepped
  | collect chunk =>
    simp only [step] at stepped
    split at stepped
    next =>
      obtain ⟨_, _, same⟩ := Option.bind_eq_some_iff.mp stepped
      cases same
      rfl
    next => cases stepped

namespace Follows

theorem measure_eq (follows : passage.Follows transfer) : passage.measure = transfer.measure := by
  rw [measure, follows.pipe_eq, follows.pending_eq]
  rfl

theorem pays (follows : passage.Follows transfer) (holds : transfer.Exact payload) {move : Move}
    (stepped : passage.step move = some next) : passage.Pays next := by
  have after := follows.step move stepped
  have paid := holds.measure_add (move.apply_exact holds) (move.apply_along holds)
  rw [← follows.measure_eq, ← after.measure_eq, ← follows.pending_eq, ← after.pending_eq,
    ← follows.received_eq, ← after.received_eq] at paid
  exact ⟨by omega, by omega, by omega⟩

theorem able (follows : passage.Follows transfer) (move : Move) (due : passage.Next move) :
    ∃ next, passage.step move = some next ∧ next.Follows (move.apply transfer) ∧
      passage.After move next.stage := by
  obtain ⟨next, stepped⟩ := Option.isSome_iff_exists.mp ((follows.step_isSome_iff move).mpr due)
  exact ⟨next, stepped, follows.step move stepped, step_after stepped⟩

end Follows

-- The consumer takes its two steps in turn, so the one that is wanted may be the second.
def Shortly (passage : Passage) (readChunk : Nat) (later : Passage) : Prop :=
  later = passage ∨
    ∃ idle ∈ [Move.look, .collect readChunk], passage.step idle = some later ∧
      later.pipe? = passage.pipe?

/-- One of the two loops can go on: at once, or after a step of the consumer that leaves the pipe as it is. -/
inductive Ready (passage : Passage) (writeChunk readChunk : Nat) : Prop
  | offer (next : Passage) : passage.step (.offer writeChunk) = some next →
      next.pending.length < passage.pending.length → Ready passage writeChunk readChunk
  | leave (next : Passage) : passage.step .leave = some next → Ready passage writeChunk readChunk
  | collect (later next : Passage) : passage.Shortly readChunk later →
      later.step (.collect readChunk) = some next →
      passage.received.length < next.received.length → Ready passage writeChunk readChunk
  | look (later next : Passage) : passage.Shortly readChunk later → later.step .look = some next →
      next.stage = .finished → Ready passage writeChunk readChunk

namespace Follows

theorem look_finished_iff (follows : passage.Follows transfer) (unfinished : passage.stage ≠ .finished)
    (after : next.Follows transfer.check) :
    next.stage = .finished ↔ transfer.pipe.atEnd = true := by
  have before : transfer.finished = false := by simpa [follows.finished_iff] using unfinished
  rw [after.finished_iff, Transfer.check, before, Bool.false_or]

theorem shortly_reading (follows : passage.Follows transfer) (unfinished : passage.stage ≠ .finished)
    (going : transfer.pipe.atEnd = false) :
    ∃ later, passage.Shortly readChunk later ∧ later.stage = .reading ∧
      ∃ after, later.Follows after ∧ after.pipe = transfer.pipe ∧ after.received = transfer.received := by
  cases stage : passage.stage with
  | finished => exact absurd stage unfinished
  | reading => exact ⟨passage, .inl rfl, stage, transfer, follows, rfl, rfl⟩
  | looking =>
    obtain ⟨later, stepped, after, elsewhere⟩ := follows.able .look stage
    have unseen := (not_congr (follows.look_finished_iff unfinished after)).mpr (by simp [going])
    refine ⟨later, .inr ⟨.look, by simp, stepped, ?_⟩, ?_, _, after, rfl, rfl⟩
    next =>
      rw [after.pipe_eq, follows.pipe_eq]
      rfl
    next =>
      cases seen : later.stage with
      | finished => exact absurd seen unseen
      | looking => exact absurd seen elsewhere
      | reading => rfl

theorem shortly_looking (follows : passage.Follows transfer) (unfinished : passage.stage ≠ .finished)
    (nothing : transfer.pipe.size = 0) (sound : transfer.pipe.Sound) :
    ∃ later, passage.Shortly readChunk later ∧ later.stage = .looking ∧
      ∃ after, later.Follows after ∧ after.pipe = transfer.pipe := by
  cases stage : passage.stage with
  | finished => exact absurd stage unfinished
  | looking => exact ⟨passage, .inl rfl, stage, transfer, follows, rfl⟩
  | reading =>
    obtain ⟨later, stepped, after, elsewhere⟩ := follows.able (.collect readChunk) stage
    have same : (transfer.collect readChunk).pipe = transfer.pipe := by
      show (transfer.pipe.read readChunk).2 = _
      rw [read_eq sound, discard_of_nothing (by omega)]
    refine ⟨later, .inr ⟨_, by simp, stepped, ?_⟩, elsewhere, _, after, same⟩
    rw [after.pipe_eq, follows.pipe_eq]
    exact congrArg some same

theorem ready (follows : passage.Follows transfer) (holds : transfer.Exact payload)
    (roomy : 0 < transfer.pipe.capacity) (written : 0 < writeChunk) (taken : 0 < readChunk)
    (unfinished : passage.stage ≠ .finished) : passage.Ready writeChunk readChunk := by
  by_cases held : transfer.pipe.size = 0
  next =>
    cases producing : transfer.producing with
    | false =>
      have atEnd : transfer.pipe.atEnd = true := by
        simp [atEnd, isEmpty, holds.ended_eq, producing, held]
      obtain ⟨later, soon, looking, between, since, same⟩ :=
        follows.shortly_looking unfinished held holds.sound
      obtain ⟨next, stepped, after, -⟩ := since.able .look looking
      refine .look later next soon stepped ?_
      exact (since.look_finished_iff (by simp [looking]) after).mpr (same ▸ atEnd)
    | true =>
      have sender : passage.sender ≠ none := by simp [follows.sender_eq, producing]
      by_cases nothing : passage.pending = []
      next =>
        obtain ⟨next, stepped, -⟩ := follows.able .leave ⟨sender, nothing⟩
        exact .leave next stepped
      next =>
        obtain ⟨next, stepped, after, -⟩ := follows.able (.offer writeChunk) ⟨sender, nothing⟩
        rw [follows.pending_eq] at nothing
        have roomy : 0 < transfer.pipe.room := by rwa [room, held, Nat.sub_zero]
        refine .offer next stepped ?_
        rw [after.pending_eq, follows.pending_eq]
        exact holds.length_pending_produce_lt producing nothing roomy written
  next =>
    have going : transfer.pipe.atEnd = false := by simp [atEnd, isEmpty, held]
    obtain ⟨later, soon, reading, between, since, same, received⟩ :=
      follows.shortly_reading unfinished going
    obtain ⟨next, stepped, after, -⟩ := since.able (.collect readChunk) reading
    refine .collect later next soon stepped ?_
    have some : 0 < min readChunk transfer.pipe.size := by omega
    rw [after.received_eq, follows.received_eq]
    show _ < (between.collect readChunk).received.length
    rw [Transfer.received_collect, List.length_append, same, received, length_peek holds.sound]
    omega

end Follows

def produce (passage : Passage) (chunk : Nat) : Option Passage :=
  match passage.sender with
  | some _ => passage.step (if passage.pending.isEmpty then .leave else .offer chunk)
  | none => some passage

def consume (passage : Passage) (chunk : Nat) : Option Passage := do
  let seen ← passage.step .look
  if seen.stage = .finished then return seen else seen.step (.collect chunk)

def alternate (writeChunk readChunk : Nat) : Nat → Passage → Option Passage
  | 0, passage => some passage
  | count + 1, passage => do
      let offered ← passage.produce writeChunk
      let next ← offered.consume readChunk
      if next.stage = .finished then return next else alternate writeChunk readChunk count next

namespace Follows

theorem produce (follows : passage.Follows transfer) (chunk : Nat) :
    ∃ next, passage.produce chunk = some next ∧ next.Follows (transfer.produce chunk) ∧
      next.stage = passage.stage := by
  cases held : passage.sender with
  | none =>
    have gone : transfer.producing = false := by
      have same := follows.sender_eq
      rw [held] at same
      cases producing : transfer.producing <;> simp [producing] at same ⊢
    refine ⟨passage, by rw [Passage.produce, held], ?_, rfl⟩
    simpa [Transfer.produce, gone] using follows
  | some sender =>
    have some : passage.sender ≠ none := by simp [held]
    by_cases nothing : passage.pending = []
    next =>
      obtain ⟨next, stepped, after, stage⟩ := follows.able .leave ⟨some, nothing⟩
      refine ⟨next, ?_, ?_, stage⟩
      next => rw [Passage.produce, held]; simpa [nothing] using stepped
      next =>
        rw [follows.pending_eq] at nothing
        simpa [Move.apply, Transfer.produce, nothing] using after
    next =>
      obtain ⟨next, stepped, after, stage⟩ := follows.able (.offer chunk) ⟨some, nothing⟩
      refine ⟨next, ?_, after, stage⟩
      rw [Passage.produce, held]
      simpa [nothing] using stepped

theorem consume (follows : passage.Follows transfer) (looking : passage.stage = .looking)
    (chunk : Nat) :
    ∃ next, passage.consume chunk = some next ∧ next.Follows (transfer.consume chunk) ∧
      (next.stage = .finished ∨ next.stage = .looking) := by
  obtain ⟨seen, stepped, after, elsewhere⟩ := follows.able .look looking
  have after : seen.Follows transfer.check := after
  simp only [Passage.consume, stepped, Option.bind_eq_bind, Option.bind_some, Transfer.consume]
  by_cases finished : seen.stage = .finished
  next =>
    rw [if_pos finished, if_pos (after.finished_iff.mp finished)]
    exact ⟨seen, rfl, after, .inl finished⟩
  next =>
    have reading : seen.stage = .reading := by
      cases stage : seen.stage with
      | finished => exact absurd stage finished
      | looking => exact absurd stage elsewhere
      | reading => rfl
    obtain ⟨next, collected, last, back⟩ := after.able (.collect chunk) reading
    rw [if_neg finished, if_neg (fun seen => finished (after.finished_iff.mpr seen))]
    exact ⟨next, collected, last, .inr back⟩

theorem alternate (follows : passage.Follows transfer) (looking : passage.stage = .looking)
    (writeChunk readChunk count : Nat) :
    ∃ next, passage.alternate writeChunk readChunk count = some next ∧
      next.Follows (transfer.rounds writeChunk readChunk count) := by
  induction count generalizing passage transfer with
  | zero => exact ⟨passage, rfl, follows⟩
  | succ count ih =>
    obtain ⟨offered, produced, between, stage⟩ := follows.produce writeChunk
    obtain ⟨next, consumed, after, back⟩ := between.consume (stage.trans looking) readChunk
    simp only [Passage.alternate, produced, consumed, Option.bind_eq_bind, Option.bind_some,
      Transfer.rounds]
    by_cases finished : next.stage = .finished
    next =>
      rw [if_pos finished, if_pos (after.finished_iff.mp finished)]
      exact ⟨next, rfl, after⟩
    next =>
      rw [if_neg finished, if_neg (fun seen => finished (after.finished_iff.mpr seen))]
      exact ih after (back.resolve_left finished)

end Follows

/-- What keeps two loops going until they are through. -/
structure Progresses (start : Passage) (payload : Bytes) (writeChunk readChunk : Nat) : Prop where
  pays : ∀ schedule passage move next, start.run schedule = some passage →
    passage.step move = some next → passage.Pays next
  ready : ∀ schedule passage, start.run schedule = some passage → passage.stage ≠ .finished →
    passage.Ready writeChunk readChunk
  finishes : ∃ last, start.alternate writeChunk readChunk (2 * payload.length + 1) = some last ∧
    last.stage = .finished ∧ last.received = payload

theorem run_progresses (halves : Halves) (capacity : Nat) (pipe : Pipe) (payload : Bytes)
    (writeChunk readChunk : Nat) (created : create capacity = .ok pipe) (roomy : 0 < capacity)
    (written : 0 < writeChunk) (taken : 0 < readChunk) :
    (start halves pipe payload).Progresses payload writeChunk readChunk ∧
      ((Transfer.start pipe payload).run writeChunk readChunk).finished = true ∧
      ((Transfer.start pipe payload).run writeChunk readChunk).received = payload := by
  obtain ⟨-, rfl⟩ := create_eq_ok_iff.mp created
  have begun := Transfer.Exact.start capacity payload
  have roomy : 0 < (Transfer.start (empty capacity) payload).pipe.capacity := by
    rw [Transfer.start, capacity_empty]
    exact roomy
  have follows := start_follows halves (empty capacity) payload
  have measure : (Transfer.start (empty capacity) payload).measure = 2 * payload.length := rfl
  refine ⟨?_, Transfer.rounds_finished begun roomy written taken (by omega)⟩
  constructor
  case pays =>
    intro schedule passage move next ran stepped
    exact (follows.run schedule ran).pays (Move.foldl_along begun schedule).1 stepped
  case ready =>
    intro schedule passage ran unfinished
    obtain ⟨holds, along⟩ := Move.foldl_along begun schedule
    have roomy := along.capacity_eq ▸ roomy
    exact (follows.run schedule ran).ready holds roomy written taken unfinished
  case finishes =>
    obtain ⟨last, ran, after⟩ :=
      follows.alternate rfl writeChunk readChunk (2 * payload.length + 1)
    obtain ⟨finished, received⟩ :=
      Transfer.rounds_finished begun roomy written taken (Nat.lt_succ_of_le (Nat.le_of_eq measure))
    exact ⟨last, ran, after.finished_iff.mpr finished, after.received_eq.trans received⟩

-- The ring is full, so the producer goes round without getting rid of anything.
def spinning : List Move := [.offer 2, .look, .offer 2, .offer 2]

theorem run_spinning :
    create 1 = .ok (empty 1) ∧
      (start .none (empty 1) [1, 2, 3]).Progresses [1, 2, 3] 2 3 ∧
      ∃ passage, (start .none (empty 1) [1, 2, 3]).run spinning = some passage ∧
        passage.pending = [2, 3] ∧ passage.measure = 5 ∧ passage.stage ≠ .finished ∧
        passage.Ready 2 3 := by
  have created : create 1 = .ok (empty 1) := rfl
  obtain ⟨progresses, -⟩ :=
    run_progresses .none 1 (empty 1) [1, 2, 3] 2 3 created (by decide) (by decide) (by decide)
  obtain ⟨passage, ran⟩ : ∃ passage, (start .none (empty 1) [1, 2, 3]).run spinning = some passage :=
    ⟨_, rfl⟩
  have unfinished : passage.stage ≠ .finished := by
    cases ran
    decide
  have ready := progresses.ready spinning passage ran unfinished
  cases ran
  exact ⟨created, progresses, _, rfl, rfl, rfl, unfinished, ready⟩

end Passage

end Conduit.Pipe
