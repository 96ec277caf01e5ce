import Conduit.Proofs.Pipe.Ownership
set_option autoImplicit false

namespace Conduit.Pipe

theorem End.mem_both (side : End) : side ∈ [End.sending, .receiving] := by
  cases side <;> simp

inductive Query
  | ended
  | room
  | totalIn
  | size
  | isEmpty
  | atEnd
  | totalOut
  deriving DecidableEq

inductive Told
  | flag (value : Bool)
  | amount (value : Nat)
  | total (value : UInt64)
  deriving DecidableEq

def Query.side : Query → End
  | ended | room | totalIn => .sending
  | size | isEmpty | atEnd | totalOut => .receiving

def tell (pipe : Pipe) : Query → Told
  | .ended => .flag pipe.ended
  | .room => .amount pipe.room
  | .totalIn => .total pipe.totalIn
  | .size => .amount pipe.size
  | .isEmpty => .flag pipe.isEmpty
  | .atEnd => .flag pipe.atEnd
  | .totalOut => .total pipe.totalOut

inductive HalfCall
  | write (data : Bytes)
  | finish
  | peek (count : Nat)
  | discard (count : Nat)
  | read (count : Nat)

namespace HalfCall

def side : HalfCall → End
  | write _ | finish => .sending
  | peek _ | discard _ | read _ => .receiving

def request : HalfCall → Request
  | write data => .write data
  | finish => .finish
  | peek count => .peek count
  | discard count => .discard count
  | read count => .read count

theorem permitted (call : HalfCall) : call.request.permitted (.half call.side) = true := by
  cases call <;> rfl

theorem answer_half (call : HalfCall) (pipe : Pipe) :
    pipe.answer (.half call.side) call.request = pipe.answer .whole call.request := by
  cases call <;> rfl

def onHalf (place : End → String) (call : HalfCall) : String × Command :=
  (place call.side, .ask call.request)

def onWhole (name : String) (call : HalfCall) : String × Command := (name, .ask call.request)

end HalfCall

def Step.seen (step : Step) : Reply × List Event := (step.reply, step.events)

namespace Workspace

variable {workspace halves whole : Workspace} {name : String} {place : End → String}
  {sides : List End} {number : Nat} {pipe : Pipe}

def tell? (workspace : Workspace) (name : String) (query : Query) : Option Told :=
  match (workspace.slot? name).bind workspace.pipe? with
  | some (.whole, pipe) => some (pipe.tell query)
  | some (.half side, pipe) => if side = query.side then some (pipe.tell query) else none
  | none => none

theorem tell?_whole (there : workspace.slot? name = some (.whole pipe)) (query : Query) :
    workspace.tell? name query = some (pipe.tell query) := by
  simp [tell?, there, pipe?]

theorem slot?_setPipe_self (there : workspace.slot? name = some (.whole pipe)) (after : Pipe) :
    (workspace.setPipe name (.whole pipe) after).slot? name = some (.whole after) := by
  rw [slot?_setPipe_whole, if_pos rfl, there, Option.map_some]

structure Shares (workspace : Workspace) (place : End → String) (sides : List End) (number : Nat)
    (pipe : Pipe) : Prop where
  slot?_eq : ∀ side ∈ sides, workspace.slot? (place side) = some (.half side number)
  find?_eq : workspace.halves.find? number = some ⟨pipe, sides.length⟩

namespace Shares

theorem tell?_eq (shares : halves.Shares place sides number pipe) {query : Query}
    (held : query.side ∈ sides) : halves.tell? (place query.side) query = some (pipe.tell query) := by
  have there := shares.slot?_eq _ held
  have behind : halves.pipe? (.half query.side number) = some (.half query.side, pipe) := by
    cases query.side <;> simp [pipe?, Slot.half, Halves.pipe?, shares.find?_eq]
  simp [tell?, there, behind]

theorem step (shares : halves.Shares place sides number pipe) {call : HalfCall}
    (held : call.side ∈ sides) :
    ∃ step, halves.step (place call.side) (.ask call.request) = some step ∧
      step.seen = ((pipe.answer .whole call.request).1, pipe.events call.request) ∧
      step.after.Shares place sides number (pipe.answer .whole call.request).2 := by
  rw [step_ask_half (shares.slot?_eq _ held) shares.find?_eq, if_pos call.permitted,
    call.answer_half]
  refine ⟨_, rfl, rfl, fun side among => ?_, ?_⟩
  next => rw [slot?_setPipe_half, shares.slot?_eq side among]
  next =>
    have found := Halves.find?_setPipe _ _ _ (pipe.answer .whole call.request).2 shares.find?_eq
    cases call.side <;> exact found

theorem run (shares : halves.Shares place sides number pipe)
    (there : whole.slot? name = some (.whole pipe)) {calls : List HalfCall}
    (held : ∀ call ∈ calls, call.side ∈ sides) :
    ∃ steps direct after,
      halves.run (calls.map (·.onHalf place)) = some steps ∧
      whole.run (calls.map (·.onWhole name)) = some direct ∧
      steps.map Step.seen = direct.map Step.seen ∧
      (halves.lastOf steps).Shares place sides number after ∧
      (whole.lastOf direct).slot? name = some (.whole after) := by
  -- Both sides have the same pipe before every call, whatever it is by then.
  induction calls generalizing halves whole pipe with
  | nil => exact ⟨[], [], pipe, rfl, rfl, rfl, shares, there⟩
  | cons call later ih =>
    obtain ⟨step, stepped, seen, next⟩ := shares.step (held call List.mem_cons_self)
    obtain ⟨steps, direct, after, ran, ranDirect, same, last, lastDirect⟩ :=
      ih next (slot?_setPipe_self there _) fun other among =>
        held other (List.mem_cons_of_mem _ among)
    refine ⟨_, _, after, run_cons_iff.mpr ⟨step, steps, stepped, ran, rfl⟩,
      run_cons_iff.mpr ⟨_, direct, step_ask_whole there call.request, ranDirect, rfl⟩,
      ?_, last, lastDirect⟩
    rw [List.map_cons, List.map_cons, seen, same]
    rfl

end Shares

/-- All that is done and looked up on these sides from here on comes out as on the whole pipe. -/
def Follows (place : End → String) (name : String) (sides : List End) (halves whole : Workspace) :
    Prop :=
  ∀ calls : List HalfCall, (∀ call ∈ calls, call.side ∈ sides) →
    ∃ steps direct,
      halves.run (calls.map (·.onHalf place)) = some steps ∧
      whole.run (calls.map (·.onWhole name)) = some direct ∧
      steps.map Step.seen = direct.map Step.seen ∧
      ∀ query : Query, query.side ∈ sides → ∃ told,
        (halves.lastOf steps).tell? (place query.side) query = some told ∧
        (whole.lastOf direct).tell? name query = some told

theorem Shares.follows (shares : halves.Shares place sides number pipe)
    (there : whole.slot? name = some (.whole pipe)) : Follows place name sides halves whole := by
  intro calls held
  obtain ⟨steps, direct, after, ran, ranDirect, same, last, lastDirect⟩ := shares.run there held
  exact ⟨steps, direct, ran, ranDirect, same, fun query among =>
    ⟨after.tell query, last.tell?_eq among, tell?_whole lastDirect query⟩⟩

/-- The halves stand for the whole pipe, also if they are joined or one of them is dropped. -/
structure StandsFor (place : End → String) (name : String) (halves whole : Workspace) : Prop where
  follows : Follows place name [.sending, .receiving] halves whole
  reunited : ∀ target, ∃ step pipe,
    halves.step target (.reunite (place .sending) (place .receiving)) = some step ∧
    step.reply = .reunited ∧
    step.after.slot? target = some (.whole pipe) ∧ whole.slot? name = some (.whole pipe)
  sender_dropped : ∃ dropped finished,
    halves.step (place .sending) .drop = some dropped ∧
    whole.step name (.ask .finish) = some finished ∧
    dropped.seen = finished.seen ∧
    Follows place name [.receiving] dropped.after finished.after
  sender_dropped_late : whole.tell? name .ended = some (.flag true) → ∃ dropped,
    halves.step (place .sending) .drop = some dropped ∧
    dropped.seen = (.done, []) ∧
    Follows place name [.receiving] dropped.after whole
  receiver_dropped : ∃ dropped,
    halves.step (place .receiving) .drop = some dropped ∧
    dropped.seen = (.done, []) ∧
    Follows place name [.sending] dropped.after whole

namespace Shares

theorem reunited (shares : halves.Shares place [.sending, .receiving] number pipe) (target : String) :
    ∃ step, halves.step target (.reunite (place .sending) (place .receiving)) = some step ∧
      step.reply = .reunited ∧ step.after.slot? target = some (.whole pipe) := by
  have found : halves.halves.find? number = some ⟨pipe, 2⟩ := shares.find?_eq
  have sending := shares.slot?_eq .sending (by simp)
  have receiving := shares.slot?_eq .receiving (by simp)
  refine ⟨_, step_reunite sending receiving, ?_, ?_⟩
  next => rw [reunite_of_two found]
  next => rw [reunite_of_two found, slot?_put, if_pos rfl]

variable (apart : place .sending ≠ place .receiving)

include apart

theorem drop_sender (shares : halves.Shares place [.sending, .receiving] number pipe) :
    (halves.drop (place .sending)).1 = pipe.finishEvents ∧
      (halves.drop (place .sending)).2.Shares place [.receiving] number pipe.finish := by
  have there := shares.slot?_eq .sending (by simp)
  refine ⟨?_, fun side among => ?_, ?_⟩
  next =>
    simp [Workspace.drop, there, Slot.half, Halves.dropSender, Halves.pipe?, forget, shares.find?_eq]
  next =>
    cases List.mem_singleton.mp among
    rw [slot?_drop, if_neg apart.symm, shares.slot?_eq .receiving (by simp)]
  next =>
    rw [find?_drop_of_half there, shares.find?_eq]
    rfl

theorem drop_receiver (shares : halves.Shares place [.sending, .receiving] number pipe) :
    (halves.drop (place .receiving)).1 = [] ∧
      (halves.drop (place .receiving)).2.Shares place [.sending] number pipe := by
  have there := shares.slot?_eq .receiving (by simp)
  refine ⟨?_, fun side among => ?_, ?_⟩
  next => simp [Workspace.drop, there, Slot.half]
  next =>
    cases List.mem_singleton.mp among
    rw [slot?_drop, if_neg apart, shares.slot?_eq .sending (by simp)]
  next =>
    rw [find?_drop_of_half there, shares.find?_eq]
    rfl

theorem standsFor (shares : halves.Shares place [.sending, .receiving] number pipe)
    (there : whole.slot? name = some (.whole pipe)) : StandsFor place name halves whole := by
  obtain ⟨reported, left⟩ := shares.drop_sender apart
  obtain ⟨silent, right⟩ := shares.drop_receiver apart
  constructor
  case follows => exact shares.follows there
  case reunited =>
    intro target
    obtain ⟨step, stepped, reply, held⟩ := shares.reunited target
    exact ⟨step, pipe, stepped, reply, held, there⟩
  case sender_dropped =>
    refine ⟨_, _, step_drop .., step_ask_whole there .finish, ?_,
      left.follows (slot?_setPipe_self there _)⟩
    rw [Step.seen, reported]
    rfl
  case sender_dropped_late =>
    intro late
    have ended : pipe.ended = true := by
      simpa [tell?_whole there, Pipe.tell] using late
    have same : pipe.finish = pipe := by rw [finish, ← ended]
    refine ⟨_, step_drop .., ?_, (same ▸ left).follows there⟩
    rw [Step.seen, reported, finishEvents, if_pos ended]
  case receiver_dropped =>
    refine ⟨_, step_drop .., ?_, right.follows there⟩
    rw [Step.seen, silent]

theorem of_split (consistent : workspace.Consistent) (name : String) (pipe : Pipe) :
    (workspace.split name pipe (place .sending) (place .receiving)).after.Shares place
      [.sending, .receiving] workspace.halves.fresh pipe := by
  refine ⟨fun side _ => ?_, ?_⟩
  next =>
    rw [slot?_split]
    cases side
    next => rw [if_neg apart, if_pos rfl]
    next => rw [if_pos rfl]
  next =>
    -- What the slots held before has nothing to do with the new number.
    have elsewhere (target : String) (side : End) :
        (divided workspace name pipe).slot? target ≠ some (.half side workspace.halves.fresh) := by
      have slot : (divided workspace name pipe).slot? target =
          if target = name then none else workspace.slot? target := slot?_forget
      rw [slot]
      split
      next => simp
      next => exact fun held => Nat.lt_irrefl _ (consistent.lt_fresh held)
    rw [after_split]
    refine (find?_drop_of_other fun side held => ?_).trans
      ((find?_drop_of_other (elsewhere (place .sending))).trans (Halves.find?_split ..))
    rw [slot?_put, if_neg apart.symm] at held
    exact elsewhere (place .receiving) side held

end Shares

/-- Splitting a pipe, using the halves in any order and joining them or dropping one comes out as the same
calls to the pipe itself do. -/
theorem split_transparent (consistent : workspace.Consistent)
    (there : workspace.slot? name = some (.whole pipe))
    (apart : place .sending ≠ place .receiving) (calls : List HalfCall) :
    ∃ split steps direct,
      workspace.step name (.split (place .sending) (place .receiving)) = some split ∧
      split.reply = .done ∧
      split.after.run (calls.map (·.onHalf place)) = some steps ∧
      workspace.run (calls.map (·.onWhole name)) = some direct ∧
      steps.map Step.seen = direct.map Step.seen ∧
      StandsFor place name (split.after.lastOf steps) (workspace.lastOf direct) := by
  have shares := Shares.of_split apart consistent name pipe
  obtain ⟨steps, direct, after, ran, ranDirect, same, last, lastDirect⟩ :=
    shares.run there fun call (_ : call ∈ calls) => call.side.mem_both
  refine ⟨_, steps, direct, ?_, rfl, ran, ranDirect, same, last.standsFor apart lastDirect⟩
  simp [Workspace.step, there]

-- A pipe whose contents go around the end of its ring.
def turned : Pipe := (((Pipe.empty 3).write [1, 2, 3]).2.discard 2).write [4] |>.2

def twoSlots : End → String
  | .sending => "sender"
  | .receiving => "receiver"

theorem split_turned :
    let workspace := (empty.put "pipe" (.whole turned)).2
    let calls : List HalfCall := [.write [5, 6], .read 2, .finish, .peek 9, .write [7]]
    workspace.Consistent ∧ workspace.slot? "pipe" = some (.whole turned) ∧
      twoSlots .sending ≠ twoSlots .receiving ∧
      ∃ split steps direct,
        workspace.step "pipe" (.split "sender" "receiver") = some split ∧
        split.after.run (calls.map (·.onHalf twoSlots)) = some steps ∧
        workspace.run (calls.map (·.onWhole "pipe")) = some direct ∧
        steps.map (·.reply) = [.count 1, .bytes [3, 4], .done, .bytes [5], .count 0] ∧
        StandsFor twoSlots "pipe" (split.after.lastOf steps) (workspace.lastOf direct) := by
  intro workspace calls
  have consistent : workspace.Consistent := empty_consistent.put_whole "pipe" turned
  have there : workspace.slot? "pipe" = some (.whole turned) := by decide
  have apart : twoSlots .sending ≠ twoSlots .receiving := by decide
  refine ⟨consistent, there, apart, ?_⟩
  obtain ⟨split, steps, direct, stepped, -, ran, ranDirect, -, stands⟩ :=
    split_transparent consistent there apart calls
  refine ⟨split, steps, direct, stepped, ran, ranDirect, ?_, stands⟩
  cases stepped
  cases ran
  decide

end Workspace

end Conduit.Pipe
