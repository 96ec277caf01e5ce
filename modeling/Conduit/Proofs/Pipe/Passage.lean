import Conduit.Pipe.Cursor
import Conduit.Proofs.Pipe.Halves
import Conduit.Proofs.Pipe.Transfer
set_option autoImplicit false

namespace Conduit.Pipe

inductive Stage
  | looking
  | reading
  | finished
  deriving DecidableEq, Repr

structure Passage where
  halves : Halves
  sender : Option Sender
  receiver : Receiver
  pending : Bytes
  received : Bytes
  stage : Stage
  deriving DecidableEq, Repr

inductive Move
  | offer (chunk : Nat)
  | leave
  | look
  | collect (chunk : Nat)
  deriving DecidableEq, Repr

namespace Passage

def start (halves : Halves) (pipe : Pipe) (payload : Bytes) : Passage :=
  let (sender, receiver, halves) := halves.split pipe
  { halves
    sender := some sender
    receiver
    pending := payload
    received := []
    stage := .looking }

def pipe? (passage : Passage) : Option Pipe := passage.halves.pipe? passage.receiver.number

def offer (passage : Passage) (sender : Sender) (chunk : Nat) : Option Passage := do
  let (count, halves) ←
    passage.halves.locked sender.number (·.write (passage.pending.take chunk))
  return { passage with halves, pending := passage.pending.drop count }

def leave (passage : Passage) (sender : Sender) : Passage :=
  { passage with
    halves := (passage.halves.dropSender sender).2
    sender := none }

def look (passage : Passage) : Option Passage := do
  let pipe ← passage.pipe?
  return { passage with stage := if pipe.atEnd then .finished else .reading }

def collect (passage : Passage) (chunk : Nat) : Option Passage := do
  let (bytes, halves) ← passage.halves.locked passage.receiver.number (·.read chunk)
  return { passage with halves, received := passage.received ++ bytes, stage := .looking }

-- A move that is not the next one of its loop is not possible.
def step (passage : Passage) : Move → Option Passage
  | .offer chunk =>
      match passage.sender, passage.pending with
      | some sender, _ :: _ => passage.offer sender chunk
      | _, _ => none
  | .leave =>
      match passage.sender, passage.pending with
      | some sender, [] => some (passage.leave sender)
      | _, _ => none
  | .look => if passage.stage = .looking then passage.look else none
  | .collect chunk => if passage.stage = .reading then passage.collect chunk else none

def run (passage : Passage) : List Move → Option Passage
  | [] => some passage
  | move :: later => (passage.step move).bind (·.run later)

def Next (passage : Passage) : Move → Prop
  | .offer _ => passage.sender ≠ none ∧ passage.pending ≠ []
  | .leave => passage.sender ≠ none ∧ passage.pending = []
  | .look => passage.stage = .looking
  | .collect _ => passage.stage = .reading

end Passage

def Move.apply (transfer : Transfer) : Move → Transfer
  | offer chunk => transfer.produce chunk
  | leave => transfer.produce 0
  | look => transfer.check
  | collect chunk => transfer.collect chunk

theorem Move.apply_exact {payload : Bytes} {transfer : Transfer} (holds : transfer.Exact payload)
    (move : Move) : (move.apply transfer).Exact payload := by
  cases move with
  | offer chunk => exact holds.produce chunk
  | leave => exact holds.produce 0
  | look => exact holds.check
  | collect chunk => exact holds.collect chunk

namespace Passage

structure Follows (passage : Passage) (transfer : Transfer) : Prop where
  shared :
    passage.halves.find? passage.receiver.number =
      some ⟨transfer.pipe, if transfer.producing then 2 else 1⟩
  sender_eq :
    passage.sender = if transfer.producing then some ⟨passage.receiver.number⟩ else none
  pending_eq : passage.pending = transfer.pending
  received_eq : passage.received = transfer.received
  finished_iff : passage.stage = .finished ↔ transfer.finished = true

theorem start_follows (halves : Halves) (pipe : Pipe) (payload : Bytes) :
    (start halves pipe payload).Follows (.start pipe payload) :=
  { shared := halves.find?_split pipe
    sender_eq := rfl
    pending_eq := rfl
    received_eq := rfl
    finished_iff := by simp [start, Transfer.start] }

namespace Follows

variable {passage next : Passage} {transfer : Transfer}

theorem pipe_eq (follows : passage.Follows transfer) : passage.pipe? = some transfer.pipe := by
  rw [pipe?, Halves.pipe?, follows.shared, Option.map_some]

theorem producing (follows : passage.Follows transfer) {sender : Sender}
    (held : passage.sender = some sender) :
    transfer.producing = true ∧ sender.number = passage.receiver.number := by
  have same := follows.sender_eq
  rw [held] at same
  cases going : transfer.producing with
  | false => simp [going] at same
  | true =>
    simp only [going, if_true, Option.some.injEq] at same
    exact ⟨rfl, congrArg Sender.number same⟩

theorem offer (follows : passage.Follows transfer) {sender : Sender}
    (held : passage.sender = some sender) (something : passage.pending ≠ []) (chunk : Nat)
    (offered : passage.offer sender chunk = some next) :
    next.Follows (transfer.produce chunk) := by
  obtain ⟨going, number⟩ := follows.producing held
  have produced : transfer.produce chunk =
      { transfer with
        pending := transfer.pending.drop (transfer.pipe.write (transfer.pending.take chunk)).1
        pipe := (transfer.pipe.write (transfer.pending.take chunk)).2 } := by
    rw [follows.pending_eq] at something
    simp [Transfer.produce, going, something]
  rw [Passage.offer, number, Halves.locked_eq _ _ _ _ follows.shared, follows.pending_eq] at offered
  simp only [Option.bind_eq_bind, Option.bind_some, Option.pure_def, Option.some.injEq] at offered
  subst offered
  rw [produced]
  exact
    { follows with
      shared := Halves.find?_setPipe _ _ _ _ follows.shared
      pending_eq := rfl }

theorem leave (follows : passage.Follows transfer) {sender : Sender}
    (held : passage.sender = some sender) (nothing : passage.pending = []) :
    (passage.leave sender).Follows (transfer.produce 0) := by
  obtain ⟨going, number⟩ := follows.producing held
  have produced : transfer.produce 0 =
      { transfer with producing := false, pipe := transfer.pipe.finish } := by
    rw [follows.pending_eq] at nothing
    simp [Transfer.produce, going, nothing]
  -- Both halves still hold the pipe, so it outlives the sender and is only ended.
  have shared := follows.shared
  rw [going, ← number] at shared
  rw [produced]
  exact
    { follows with
      shared := by
        show (passage.halves.dropSender sender).2.find? passage.receiver.number = _
        rw [← number]
        exact passage.halves.find?_dropSender sender transfer.pipe shared
      sender_eq := rfl }

theorem look (follows : passage.Follows transfer) (looking : passage.stage = .looking)
    (looked : passage.look = some next) : next.Follows transfer.check := by
  have unfinished : transfer.finished = false := by
    have iff := follows.finished_iff
    rw [looking] at iff
    simpa using iff
  rw [Passage.look, follows.pipe_eq] at looked
  simp only [Option.bind_eq_bind, Option.bind_some, Option.pure_def, Option.some.injEq] at looked
  subst looked
  exact
    { follows with
      finished_iff := by
        cases ended : transfer.pipe.atEnd <;> simp [Transfer.check, unfinished, ended] }

theorem collect (follows : passage.Follows transfer) (reading : passage.stage = .reading)
    (chunk : Nat) (collected : passage.collect chunk = some next) :
    next.Follows (transfer.collect chunk) := by
  have unfinished : transfer.finished = false := by
    have iff := follows.finished_iff
    rw [reading] at iff
    simpa using iff
  have received := transfer.received_collect chunk
  rw [Passage.collect, Halves.locked_eq _ _ _ _ follows.shared] at collected
  simp only [Option.bind_eq_bind, Option.bind_some, Option.pure_def, Option.some.injEq] at collected
  subst collected
  exact
    { follows with
      shared := Halves.find?_setPipe _ _ _ _ follows.shared
      received_eq := by
        rw [received, ← follows.received_eq]
        rfl
      finished_iff := by simp [Transfer.collect, unfinished] }

theorem step (follows : passage.Follows transfer) (move : Move)
    (stepped : passage.step move = some next) : next.Follows (move.apply transfer) := by
  -- The guards of a move are those under which the transfer makes the same step.
  cases move with
  | offer chunk =>
    simp only [Passage.step] at stepped
    split at stepped
    next sender byte more held pending =>
      exact follows.offer held (by simp [pending]) chunk stepped
    next => contradiction
  | leave =>
    simp only [Passage.step] at stepped
    split at stepped
    next sender held pending =>
      cases stepped
      exact follows.leave held pending
    next => contradiction
  | look =>
    simp only [Passage.step] at stepped
    split at stepped
    next looking => exact follows.look looking stepped
    next => contradiction
  | collect chunk =>
    simp only [Passage.step] at stepped
    split at stepped
    next reading => exact follows.collect reading chunk stepped
    next => contradiction

-- No lock is ever missing, so the loops alone decide which moves are possible.
theorem step_isSome_iff (follows : passage.Follows transfer) (move : Move) :
    (passage.step move).isSome = true ↔ passage.Next move := by
  -- The receiver is never dropped, so the lock that both halves share is there for either.
  have locked {α : Type} (act : Pipe → α × Pipe) :=
    passage.halves.locked_eq passage.receiver.number _ act follows.shared
  cases move with
  | offer chunk =>
    rcases held : passage.sender with _ | sender
    next => simp [Passage.step, Next, held]
    next =>
      have number := (follows.producing held).2
      cases pending : passage.pending <;>
        simp [Passage.step, Next, held, pending, Passage.offer, number, locked]
  | leave =>
    rcases held : passage.sender with _ | sender
    next => simp [Passage.step, Next, held]
    next => cases pending : passage.pending <;> simp [Passage.step, Next, held, pending]
  | look =>
    by_cases looking : passage.stage = .looking <;>
      simp [Passage.step, Next, looking, Passage.look, follows.pipe_eq]
  | collect chunk =>
    by_cases reading : passage.stage = .reading <;>
      simp [Passage.step, Next, reading, Passage.collect, locked]

theorem run (follows : passage.Follows transfer) (schedule : List Move)
    (ran : passage.run schedule = some next) : next.Follows (schedule.foldl Move.apply transfer) := by
  induction schedule generalizing passage transfer with
  | nil =>
    cases ran
    exact follows
  | cons move later ih =>
    simp only [Passage.run, Option.bind_eq_some_iff] at ran
    obtain ⟨middle, stepped, rest⟩ := ran
    exact ih (follows.step move stepped) rest

end Follows

theorem run_follows_exact (halves : Halves) (capacity : Nat) (payload : Bytes)
    (schedule : List Move) (passage : Passage)
    (ran : (start halves (empty capacity) payload).run schedule = some passage) :
    ∃ transfer : Transfer, transfer.Exact payload ∧ passage.Follows transfer := by
  have follows := (start_follows halves (empty capacity) payload).run schedule ran
  refine ⟨_, ?_, follows⟩
  -- The transfer that is followed makes the same moves one by one.
  have keeps (schedule : List Move) (transfer : Transfer) (holds : transfer.Exact payload) :
      (schedule.foldl Move.apply transfer).Exact payload := by
    induction schedule generalizing transfer with
    | nil => exact holds
    | cons move later ih => exact ih _ (move.apply_exact holds)
  exact keeps schedule _ (.start capacity payload)

def outcome (passage : Passage) : Bytes × Option (UInt64 × UInt64) :=
  (passage.received, passage.pipe?.map fun pipe => (pipe.totalIn, pipe.totalOut))

theorem outcome_eq {payload : Bytes} {passage : Passage} {transfer : Transfer}
    (follows : passage.Follows transfer) (holds : transfer.Exact payload)
    (ended : transfer.pipe.atEnd = true) :
    passage.outcome = (payload, some (.ofNat payload.length, .ofNat payload.length)) := by
  have received := holds.received_eq ended
  have nothing := ((atEnd_iff holds.sound).1 ended).2
  rw [outcome, follows.pipe_eq, follows.received_eq, Option.map_some, holds.totalIn_eq,
    holds.totalOut_eq, nothing, received]
  rfl

/-- Whatever the schedule, every next move goes through, no byte is lost, doubled or out of order at any
time, the end is seen only once all of the payload has arrived, and so all runs that see it come to the
same. -/
theorem run_exact (halves : Halves) (capacity : Nat) (pipe : Pipe) (payload : Bytes)
    (created : create capacity = .ok pipe) (schedule : List Move) (passage : Passage)
    (ran : (start halves pipe payload).run schedule = some passage) :
    (∀ move, (passage.step move).isSome = true ↔ passage.Next move) ∧ ∃ shared,
      passage.pipe? = some shared ∧
      passage.received ++ shared.contents ++ passage.pending = payload ∧
      (passage.stage = .finished → shared.atEnd = true) ∧
      (shared.atEnd = true →
        passage.received = payload ∧
        shared.totalIn = .ofNat payload.length ∧
        shared.totalOut = .ofNat payload.length ∧
        (payload.length < UInt64.size →
          shared.totalIn.toNat = payload.length ∧ shared.totalOut.toNat = payload.length)) ∧
      ∀ other : Passage, ∀ others : List Move,
        (start halves pipe payload).run others = some other →
        passage.stage = .finished → other.stage = .finished → other.outcome = passage.outcome := by
  obtain ⟨-, rfl⟩ := create_eq_ok_iff.1 created
  obtain ⟨transfer, holds, follows⟩ := run_follows_exact halves capacity payload schedule passage ran
  refine ⟨follows.step_isSome_iff, transfer.pipe, follows.pipe_eq, ?_, ?_, ?_, ?_⟩
  next => rw [follows.received_eq, follows.pending_eq, holds.bytes]
  next => exact fun finished => holds.finished (follows.finished_iff.1 finished)
  next =>
    intro ended
    have outcome := outcome_eq follows holds ended
    rw [Passage.outcome, follows.pipe_eq] at outcome
    simp only [Option.map_some, Prod.mk.injEq, Option.some.injEq] at outcome
    obtain ⟨received, totalIn, totalOut⟩ := outcome
    refine ⟨received, totalIn, totalOut, fun below => ?_⟩
    rw [totalIn, totalOut, UInt64.toNat_ofNat_of_lt' below]
    exact ⟨rfl, rfl⟩
  next =>
    intro other others otherRan finished otherFinished
    obtain ⟨transfer', holds', follows'⟩ :=
      run_follows_exact halves capacity payload others other otherRan
    rw [outcome_eq follows holds (holds.finished (follows.finished_iff.1 finished)),
      outcome_eq follows' holds' (holds'.finished (follows'.finished_iff.1 otherFinished))]

-- The producer writes between a look of the consumer and its read, and leaves between the next two.
def overtaking : List Move :=
  [ .look, .offer 3, .offer 1, .collect 1, .look, .offer 5, .leave, .collect 7, .look ]

theorem run_overtaking :
    create 2 = .ok (empty 2) ∧ ∃ passage shared,
      (start .none (empty 2) [1, 2, 3]).run overtaking = some passage ∧
      passage.pipe? = some shared ∧
      passage.stage = .finished ∧
      passage.received = [1, 2, 3] ∧
      shared.totalIn.toNat = 3 := by
  have created : create 2 = .ok (empty 2) := rfl
  have finished :
      ((start .none (empty 2) [1, 2, 3]).run overtaking).map (·.stage) = some .finished := by
    decide
  obtain ⟨passage, ran, finished⟩ := Option.map_eq_some_iff.1 finished
  obtain ⟨-, shared, held, -, atEnd, all, -⟩ :=
    run_exact .none 2 (empty 2) [1, 2, 3] created overtaking passage ran
  obtain ⟨received, -, -, below⟩ := all (atEnd finished)
  exact ⟨created, passage, shared, ran, held, finished, received, (below (by decide)).1⟩

end Passage

end Conduit.Pipe
