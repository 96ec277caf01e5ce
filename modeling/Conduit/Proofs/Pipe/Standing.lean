import Conduit.Proofs.Pipe.Finality
import Conduit.Proofs.Pipe.Queue
import Conduit.Proofs.Pipe.Splitting
set_option autoImplicit false

namespace Conduit.Pipe

namespace Queue

variable {queue : Queue} {data : Bytes} {count : Nat}

theorem front_write (held : count ≤ queue.held.length) :
    (queue.write data).2.front count = queue.front count := by
  unfold write
  split
  next => rfl
  next => rw [front_eq, front_eq, List.take_append_of_le_length held]

theorem write_of_fits (going : queue.ended = false)
    (fits : data.length ≤ queue.capacity - queue.held.length) :
    queue.write data =
      (data.length,
        { queue with
          held := queue.held ++ data
          written := queue.written + data.length }) := by
  simp [write, going, Nat.min_eq_right fits]

theorem discard_of_held (held : count ≤ queue.held.length) :
    queue.discard count =
      { queue with
        held := queue.held.drop count
        taken := queue.taken + count } := by
  rw [discard, Nat.min_eq_left held]

theorem discard_write (fits : data.length ≤ queue.capacity - queue.held.length)
    (held : count ≤ queue.held.length) :
    (queue.discard count).write data = ((queue.write data).1, (queue.write data).2.discard count) := by
  cases ended : queue.ended with
  | true => simp [write, discard, ended]
  | false =>
    -- Neither order runs into a bound, so both take the same bytes in and out.
    have more : count ≤ (queue.held ++ data).length := by
      rw [List.length_append]
      omega
    have room : data.length ≤ queue.capacity - (queue.held.drop count).length := by
      rw [List.length_drop]
      omega
    have written := write_of_fits ended fits
    rw [written, discard_of_held held, discard_of_held more, List.drop_append_of_le_length held]
    exact write_of_fits ended room

end Queue

variable {pipe before middle after : Pipe}

def toQueue (pipe : Pipe) : Queue :=
  { capacity := pipe.capacity
    held := pipe.contents
    ended := pipe.ended
    written := pipe.totalIn.toNat
    taken := pipe.totalOut.toNat }

theorem Sound.represents (sound : pipe.Sound) : pipe.Represents pipe.toQueue :=
  { sound
    capacity_eq := rfl
    contents_eq := rfl
    ended_eq := rfl
    totalIn_eq := UInt64.ofNat_toNat.symm
    totalOut_eq := UInt64.ofNat_toNat.symm }

theorem write_read_comm (sound : pipe.Sound) {data : Bytes} {count : Nat}
    (fits : data.length ≤ pipe.room) (held : count ≤ pipe.size) :
    ((pipe.write data).2.read count).1 = (pipe.read count).1 ∧
      ((pipe.read count).2.write data).1 = (pipe.write data).1 ∧
      ((pipe.write data).2.read count).2.contents = ((pipe.read count).2.write data).2.contents ∧
      ((pipe.write data).2.read count).2.view = ((pipe.read count).2.write data).2.view := by
  have represents := sound.represents
  rw [room, represents.size_eq, represents.capacity_eq] at fits
  rw [represents.size_eq] at held
  have written := represents.write data
  have read := represents.discard count
  have both := written.discard count
  have also := read.write data
  rw [Queue.discard_write fits held] at also
  rw [read_eq sound, read_eq written.sound, represents.contents_eq, written.contents_eq,
    ← Queue.front_eq, ← Queue.front_eq, Queue.front_write held]
  refine ⟨rfl, ?_, ?_, ?_⟩
  next =>
    rw [write_fst, write_fst, read.accepted_eq, represents.accepted_eq, Queue.discard_write fits held]
  next => rw [both.contents_eq, also.contents_eq]
  next => rw [both.view_eq, also.view_eq]

-- What there was to read is still there, and comes first.
structure Grown (before after : Pipe) : Prop where
  sound : after.Sound
  grows : before.contents <+: after.contents

namespace Grown

theorem refl (sound : pipe.Sound) : Grown pipe pipe := ⟨sound, List.prefix_rfl⟩

theorem answer (grown : Grown before after) {call : HalfCall} (sends : call.side = .sending) :
    Grown before (after.answer .whole call.request).2 := by
  cases call with
  | write data =>
    refine ⟨write_sound grown.sound data, ?_⟩
    show before.contents <+: (after.write data).2.contents
    rw [contents_write grown.sound]
    exact grown.grows.trans (List.prefix_append _ _)
  | finish => exact ⟨finish_sound grown.sound, grown.grows⟩
  | peek count | discard count | read count => cases sends

theorem size_le (grown : Grown before after) (sound : before.Sound) : before.size ≤ after.size := by
  rw [← length_contents sound, ← length_contents grown.sound]
  exact grown.grows.length_le

theorem peek_eq (grown : Grown before after) (sound : before.Sound) (count : Nat) :
    after.peek (before.peek count).length = before.peek count := by
  rw [Pipe.peek_eq sound, Pipe.peek_eq grown.sound]
  exact (List.prefix_iff_eq_take.mp ((List.take_prefix _ _).trans grown.grows)).symm

theorem contents_eq (grown : Grown before after) (sound : before.Sound) (count : Nat) :
    after.contents =
      before.peek count ++ (after.discard (before.peek count).length).contents := by
  have front := grown.peek_eq sound count
  rw [Pipe.peek_eq grown.sound] at front
  have parts := List.take_append_drop (before.peek count).length after.contents
  rw [front] at parts
  rw [contents_discard grown.sound]
  exact parts.symm

end Grown

-- There is as much room as before, or more.
structure Freed (before after : Pipe) : Prop where
  sound : after.Sound
  capacity_eq : after.capacity = before.capacity
  ended_eq : after.ended = before.ended
  size_le : after.size ≤ before.size

namespace Freed

theorem refl (sound : pipe.Sound) : Freed pipe pipe := ⟨sound, rfl, rfl, Nat.le_refl _⟩

theorem discard (freed : Freed before after) (count : Nat) : Freed before (after.discard count) :=
  { sound := discard_sound freed.sound count
    capacity_eq := (capacity_discard count).trans freed.capacity_eq
    ended_eq := (ended_discard count).trans freed.ended_eq
    size_le := by
      rw [size_discard]
      exact Nat.le_trans (Nat.sub_le _ _) freed.size_le }

theorem answer (freed : Freed before after) {call : HalfCall} (receives : call.side = .receiving) :
    Freed before (after.answer .whole call.request).2 := by
  cases call with
  | peek count => exact freed
  | discard count => exact freed.discard count
  | read count =>
    show Freed before (after.read count).2
    rw [read_eq freed.sound]
    exact freed.discard count
  | write data | finish => cases receives

theorem write_fst (freed : Freed before after) (going : before.ended = false) {data : Bytes}
    (fits : data.length ≤ before.room) : (after.write data).1 = data.length := by
  have ended := freed.ended_eq.trans going
  have room : data.length ≤ after.room := by
    have less := freed.size_le
    unfold Pipe.room at fits ⊢
    rw [freed.capacity_eq]
    omega
  rw [Pipe.write_fst, accepted, ended]
  exact Nat.min_eq_left room

end Freed

/-- What the holder of one half does while the other is left alone: some calls, and at the end perhaps it
lets go of its half. -/
structure Spell (side : End) where
  calls : List HalfCall
  own : ∀ call ∈ calls, call.side = side
  leaves : Bool

def Spell.commands {side : End} (spell : Spell side) (place : End → String) :
    List (String × Command) :=
  spell.calls.map (·.onHalf place) ++ if spell.leaves then [(place side, .drop)] else []

namespace Workspace

variable {workspace : Workspace} {place : End → String} {sides : List End} {number : Nat}

def reply? (workspace : Workspace) (name : String) (request : Request) : Option Reply :=
  (workspace.step name (.ask request)).map (·.reply)

namespace Shares

theorem reply?_eq (shares : workspace.Shares place sides number pipe) (call : HalfCall)
    (held : call.side ∈ sides) :
    workspace.reply? (place call.side) call.request =
      some (pipe.answer .whole call.request).1 := by
  obtain ⟨step, stepped, seen, -⟩ := shares.step held
  rw [reply?, stepped]
  exact congrArg some (congrArg Prod.fst seen)

theorem pipeAt?_eq (shares : workspace.Shares place sides number pipe) :
    workspace.pipeAt? (.shared number) = some pipe :=
  pipeAt?_shared_eq_some.mpr ⟨_, shares.find?_eq⟩

variable {P : Pipe → Prop}

theorem calls (shares : workspace.Shares place sides number pipe) {calls : List HalfCall}
    (held : ∀ call ∈ calls, call.side ∈ sides)
    (keeps : ∀ call ∈ calls, ∀ pipe : Pipe, P pipe → P (pipe.answer .whole call.request).2)
    (holds : P pipe) :
    ∃ steps after, workspace.run (calls.map (·.onHalf place)) = some steps ∧
      (workspace.lastOf steps).Shares place sides number after ∧ P after := by
  induction calls generalizing workspace pipe with
  | nil => exact ⟨[], pipe, rfl, shares, holds⟩
  | cons call later ih =>
    obtain ⟨first, others⟩ := List.forall_mem_cons.mp held
    obtain ⟨keeps, kept⟩ := List.forall_mem_cons.mp keeps
    obtain ⟨step, stepped, -, next⟩ := shares.step first
    obtain ⟨steps, after, ran, last, holds⟩ := ih next others kept (keeps pipe holds)
    exact ⟨step :: steps, after, run_cons_iff.mpr ⟨step, steps, stepped, ran, rfl⟩, last, holds⟩

theorem spell (shares : workspace.Shares place [.sending, .receiving] number pipe)
    (apart : place .sending ≠ place .receiving) {side : End} (spell : Spell side)
    (keeps : ∀ call : HalfCall, call.side = side → ∀ pipe : Pipe, P pipe →
      P (pipe.answer .whole call.request).2) (holds : P pipe) :
    ∃ steps after sides, workspace.run (spell.commands place) = some steps ∧
      (workspace.lastOf steps).Shares place sides number after ∧
      (∀ other, other ≠ side → other ∈ sides) ∧ P after := by
  obtain ⟨steps, after, ran, last, holds⟩ := shares.calls
    (fun call _ => call.side.mem_both)
    (fun call among => keeps call (spell.own call among)) holds
  cases leaving : spell.leaves with
  | false =>
    refine ⟨steps, after, _, ?_, last, fun other _ => other.mem_both, holds⟩
    simpa [Spell.commands, leaving] using ran
  | true =>
    -- To let go of the sending half is one more call for the end of the input.
    have dropped : (workspace.lastOf steps).run [(place side, .drop)] = some [_] :=
      run_cons_iff.mpr ⟨_, [], step_drop .., rfl, rfl⟩
    have ended := run_append ran dropped
    have commands : spell.commands place =
        spell.calls.map (·.onHalf place) ++ [(place side, .drop)] := by
      rw [Spell.commands, leaving, if_pos rfl]
    rw [← commands] at ended
    cases side with
    | sending =>
      refine ⟨_, after.finish, [.receiving], ended, ?_, ?_, keeps .finish rfl after holds⟩
      next =>
        rw [lastOf_append]
        exact (last.drop_sender apart).2
      next =>
        intro other elsewhere
        cases other <;> simp at elsewhere ⊢
    | receiving =>
      refine ⟨_, after, [.sending], ended, ?_, ?_, holds⟩
      next =>
        rw [lastOf_append]
        exact (last.drop_receiver apart).2
      next =>
        intro other elsewhere
        cases other <;> simp at elsewhere ⊢

theorem pair (shares : workspace.Shares place [.sending, .receiving] number pipe)
    (first second : HalfCall) :
    let between := (pipe.answer .whole first.request).2
    ∃ steps, workspace.run ([first, second].map (·.onHalf place)) = some steps ∧
      steps.map Step.seen =
        [ ((pipe.answer .whole first.request).1, pipe.events first.request),
          ((between.answer .whole second.request).1, between.events second.request) ] ∧
      (workspace.lastOf steps).pipeAt? (.shared number) =
        some (between.answer .whole second.request).2 := by
  intro between
  obtain ⟨one, stepped, seen, next⟩ := shares.step first.side.mem_both
  obtain ⟨two, followed, then_seen, last⟩ := next.step second.side.mem_both
  refine ⟨[one, two], ?_, by rw [List.map_cons, List.map_singleton, seen, then_seen],
    last.pipeAt?_eq⟩
  exact run_cons_iff.mpr ⟨one, _, stepped, run_cons_iff.mpr ⟨two, [], followed, rfl, rfl⟩, rfl⟩

end Shares

def outcome? (workspace : Workspace) (number : Nat) (name : String) (request : Request) :
    Option (Reply × Option Pipe) :=
  (workspace.step name (.ask request)).map fun step =>
    (step.reply, step.after.pipeAt? (.shared number))

-- The receiver can look at these bytes and take them out, one way or the other.
def Offers (workspace : Workspace) (name : String) (number : Nat) (bytes : Bytes) : Prop :=
  ∃ pipe left,
    workspace.pipeAt? (.shared number) = some pipe ∧
    pipe.contents = bytes ++ left.contents ∧
    workspace.outcome? number name (.peek bytes.length) = some (.bytes bytes, some pipe) ∧
    workspace.outcome? number name (.discard bytes.length) = some (.done, some left) ∧
    workspace.outcome? number name (.read bytes.length) = some (.bytes bytes, some left)

theorem outcome?_half {name : String} {side : End} {shared : Shared} {request : Request}
    (there : workspace.slot? name = some (.half side number))
    (found : workspace.halves.find? number = some shared)
    (permitted : request.permitted (.half side) = true) :
    workspace.outcome? number name request =
      some ((shared.pipe.answer (.half side) request).1,
        some (shared.pipe.answer (.half side) request).2) := by
  have known : workspace.pipeAt? (.shared number) = some shared.pipe :=
    pipeAt?_shared_eq_some.mpr ⟨shared.holders, found⟩
  rw [outcome?, step_ask_half there found, if_pos permitted, Option.map_some,
    pipeAt?_setPipe there, Slot.place_half, if_pos rfl, known, Option.map_some]

/-- What the holder of a half has been told holds good after anything that the other one does. -/
structure Standing (workspace : Workspace) (place : End → String) (number : Nat) : Prop where
  seen : ∀ count bytes,
    workspace.reply? (place .receiving) (.peek count) = some (.bytes bytes) →
    ∀ spell : Spell .sending, ∃ steps fewer more,
      workspace.run (spell.commands place) = some steps ∧
      (workspace.lastOf steps).Offers (place .receiving) number bytes ∧
      workspace.tell? (place .receiving) .size = some (.amount fewer) ∧
      (workspace.lastOf steps).tell? (place .receiving) .size = some (.amount more) ∧
      fewer ≤ more
  free : ∀ room,
    workspace.tell? (place .sending) .room = some (.amount room) →
    workspace.tell? (place .sending) .ended = some (.flag false) →
    ∀ spell : Spell .receiving, ∃ steps,
      workspace.run (spell.commands place) = some steps ∧
      ∀ data, data.length ≤ room →
        (workspace.lastOf steps).reply? (place .sending) (.write data) = some (.count data.length)
  either : ∀ data count room size,
    workspace.tell? (place .sending) .room = some (.amount room) →
    workspace.tell? (place .receiving) .size = some (.amount size) →
    data.length ≤ room → count ≤ size →
    ∃ steps others pipe other,
      workspace.run ([.write data, .read count].map (HalfCall.onHalf place)) = some steps ∧
      workspace.run ([.read count, .write data].map (HalfCall.onHalf place)) = some others ∧
      others.map Step.seen = (steps.map Step.seen).reverse ∧
      (workspace.lastOf steps).pipeAt? (.shared number) = some pipe ∧
      (workspace.lastOf others).pipeAt? (.shared number) = some other ∧
      pipe.contents = other.contents ∧ pipe.view = other.view

namespace Shares

theorem outcome?_eq (shares : workspace.Shares place sides number pipe) (call : HalfCall)
    (held : call.side ∈ sides) :
    workspace.outcome? number (place call.side) call.request =
      some ((pipe.answer .whole call.request).1, some (pipe.answer .whole call.request).2) := by
  rw [outcome?_half (shares.slot?_eq _ held) shares.find?_eq call.permitted, call.answer_half]

theorem offers (shares : workspace.Shares place sides number after)
    (held : End.receiving ∈ sides) (sound : before.Sound) (grown : Grown before after) (count : Nat) :
    workspace.Offers (place .receiving) number (before.peek count) := by
  have same := grown.peek_eq sound count
  have looked := shares.outcome?_eq (.peek (before.peek count).length) held
  have dropped := shares.outcome?_eq (.discard (before.peek count).length) held
  have taken := shares.outcome?_eq (.read (before.peek count).length) held
  simp only [HalfCall.request, answer, read, same] at looked taken
  exact ⟨after, _, shares.pipeAt?_eq, grown.contents_eq sound count, looked, dropped, taken⟩

end Shares

theorem run_standing {commands : List (String × Command)} {steps : List Step}
    (ran : empty.run commands = some steps)
    (here : ∀ side, (empty.lastOf steps).slot? (place side) = some (.half side number)) :
    (empty.lastOf steps).Standing place number := by
  obtain ⟨pipe, found⟩ := (empty_consistent.run ran).find?_of_both (here .sending) (here .receiving)
  have shares : (empty.lastOf steps).Shares place [.sending, .receiving] number pipe :=
    ⟨fun side _ => here side, found⟩
  have sound := empty_allSound.run empty_consistent ran _ pipe shares.pipeAt?_eq
  have apart : place .sending ≠ place .receiving := by
    intro same
    have both := here .sending
    rw [same, here .receiving] at both
    simp at both
  generalize empty.lastOf steps = workspace at *
  have tells (query : Query) := shares.tell?_eq query.side.mem_both
  constructor
  case seen =>
    intro count bytes looked spell
    cases looked.symm.trans (shares.reply?_eq (.peek count) (End.mem_both _))
    obtain ⟨steps, after, sides, ran, last, left, grown⟩ :=
      shares.spell apart spell (fun call sends _ grown => grown.answer sends) (Grown.refl sound)
    have remains : Query.size.side ∈ sides := left .receiving (by decide)
    exact ⟨steps, pipe.size, after.size, ran, last.offers remains sound grown count, tells .size,
      last.tell?_eq remains, grown.size_le sound⟩
  case free =>
    intro room roomTold endedTold spell
    cases roomTold.symm.trans (tells .room)
    obtain ⟨steps, after, sides, ran, last, left, freed⟩ :=
      shares.spell apart spell (fun call receives _ freed => freed.answer receives) (Freed.refl sound)
    refine ⟨steps, ran, fun data fits => ?_⟩
    have going : pipe.ended = false := by simpa [tell] using (endedTold.symm.trans (tells .ended)).symm
    have written := last.reply?_eq (.write data) (left .sending (by decide))
    simpa [HalfCall.request, HalfCall.side, answer, freed.write_fst going fits] using written
  case either =>
    intro data count room size roomTold sizeTold fits among
    cases roomTold.symm.trans (tells .room)
    cases sizeTold.symm.trans (tells .size)
    obtain ⟨bytes, written, contents, view⟩ := write_read_comm sound fits among
    obtain ⟨steps, ran, seen, last⟩ := shares.pair (.write data) (.read count)
    obtain ⟨others, otherRan, otherSeen, otherLast⟩ := shares.pair (.read count) (.write data)
    simp only [HalfCall.request, answer, events] at seen otherSeen last otherLast
    refine ⟨steps, others, _, _, ran, otherRan, ?_, last, otherLast, contents, view⟩
    have reported : (pipe.read count).2.writeEvents data = pipe.writeEvents data := by
      rw [read_eq sound, writeEvents, ended_discard, writeEvents]
    rw [seen, otherSeen, bytes, written, reported]
    rfl

-- Three bytes around the end of a ring of four: to read them all first brings the head back to the start.
def sharing : List (String × Command) :=
  [("a", .create 4), ("a", .ask (.write [1, 2, 3])), ("a", .ask (.discard 2)),
    ("a", .split "sender" "receiver"), ("sender", .ask (.write [4, 5]))]

theorem run_sharing : ∃ steps, ∃ pipe other : Pipe,
    empty.run sharing = some steps ∧
    (∀ side, (empty.lastOf steps).slot? (twoSlots side) = some (.half side 0)) ∧
    (empty.lastOf steps).reply? "receiver" (.peek 9) = some (.bytes [3, 4, 5]) ∧
    (empty.lastOf steps).tell? "sender" .room = some (.amount 1) ∧
    (empty.lastOf steps).Standing twoSlots 0 ∧
    pipe.contents = other.contents ∧ pipe.head = 1 ∧ other.head = 0 := by
  obtain ⟨steps, ran⟩ : ∃ steps, empty.run sharing = some steps := ⟨_, rfl⟩
  have here : ∀ side, (empty.lastOf steps).slot? (twoSlots side) = some (.half side 0) := by
    cases ran
    intro side
    cases side <;> decide
  have standing := run_standing ran here
  cases ran
  obtain ⟨_, _, pipe, other, left, right, -, last, otherLast, contents, -⟩ :=
    standing.either [6] 3 1 3 rfl rfl (by decide) (by decide)
  cases left
  cases right
  cases last
  cases otherLast
  exact ⟨_, _, _, rfl, here, by decide, by decide, standing, contents, by decide, by decide⟩

end Workspace

end Conduit.Pipe
