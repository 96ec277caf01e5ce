import Conduit.Pipe.Workspace
import Conduit.Proofs.Pipe.Halves
set_option autoImplicit false

namespace Conduit.Pipe

def Slot.half : End → Nat → Slot
  | .sending, number => sender ⟨number⟩
  | .receiving, number => receiver ⟨number⟩

namespace Slot

variable {side other : End} {number second : Nat}

@[simp] theorem half_inj : half side number = half other second ↔ side = other ∧ number = second := by
  cases side <;> cases other <;> simp [half]

@[simp] theorem half_ne_whole (pipe : Pipe) : half side number ≠ whole pipe := by
  cases side <;> simp [half]

@[simp] theorem whole_ne_half (pipe : Pipe) : whole pipe ≠ half side number :=
  (half_ne_whole pipe).symm

theorem sender_eq_half (sender : Sender) : Slot.sender sender = half .sending sender.number := rfl

end Slot

namespace Workspace

variable {workspace : Workspace} {name other : String} {slot : Slot}

def fill (workspace : Workspace) (name : String) (slot : Slot) : Workspace :=
  { workspace with slots := workspace.slots ++ [(name, slot)] }

@[simp] theorem slot?_forget :
    (workspace.forget name).slot? other = if other = name then none else workspace.slot? other :=
  Halves.lookup_filter_ne workspace.slots name other

theorem slot?_fill (vacant : workspace.slot? name = none) :
    (workspace.fill name slot).slot? other =
      if other = name then some slot else workspace.slot? other := by
  simp only [slot?, fill, List.lookup_append] at vacant ⊢
  by_cases here : other = name
  next => simp [here, vacant]
  next => simp [here, List.lookup_cons, beq_eq_false_iff_ne.2 here]

theorem drop_snd (workspace : Workspace) (name : String) :
    (workspace.drop name).2 =
      { workspace.forget name with halves := (workspace.drop name).2.halves } := by
  unfold drop
  split <;> rfl

theorem put_snd (workspace : Workspace) (name : String) (slot : Slot) :
    (workspace.put name slot).2 = (workspace.drop name).2.fill name slot := rfl

@[simp] theorem slot?_drop :
    (workspace.drop name).2.slot? other =
      if other = name then none else workspace.slot? other := by
  rw [drop_snd]
  exact slot?_forget

@[simp] theorem slot?_put :
    (workspace.put name slot).2.slot? other =
      if other = name then some slot else workspace.slot? other := by
  rw [put_snd, slot?_fill (by simp)]
  by_cases here : other = name <;> simp [here]

theorem slot?_setPipe_half (side : End) (number : Nat) (pipe : Pipe) :
    (workspace.setPipe name (.half side number) pipe).slot? other = workspace.slot? other := by
  cases side <;> rfl

theorem slot?_setPipe_whole (before pipe : Pipe) :
    (workspace.setPipe name (.whole before) pipe).slot? other =
      if other = name then (workspace.slot? other).map fun _ => .whole pipe
      else workspace.slot? other :=
  Halves.lookup_map workspace.slots name other fun _ => .whole pipe

theorem find?_drop_of_half {side : End} {number : Nat}
    (there : workspace.slot? name = some (.half side number)) :
    (workspace.drop name).2.halves.find? number =
      (workspace.halves.find? number).bind fun shared =>
        Halves.less (if side = .sending then { shared with pipe := shared.pipe.finish } else shared) := by
  cases side with
  | sending =>
    have dropped : (workspace.drop name).2.halves = (workspace.halves.dropSender ⟨number⟩).2 := by
      simp [drop, there, Slot.half, forget]
    simp [dropped, Halves.find?_dropSender_eq]
  | receiving =>
    have dropped : (workspace.drop name).2.halves = workspace.halves.release number := by
      simp [drop, there, Slot.half, forget, Halves.dropReceiver]
    simp [dropped, Halves.find?_release_eq]

theorem find?_drop_of_other {number : Nat}
    (other : ∀ side, workspace.slot? name ≠ some (.half side number)) :
    (workspace.drop name).2.halves.find? number = workspace.halves.find? number := by
  unfold drop
  split
  next sender there =>
    have apart : number ≠ sender.number := fun same => other .sending (same ▸ there)
    simp [Halves.find?_dropSender_eq, forget, apart]
  next receiver there =>
    have apart : number ≠ receiver.number := fun same => other .receiving (same ▸ there)
    simp [Halves.dropReceiver, Halves.find?_release_eq, forget, apart]
  next => rfl

theorem find?_drop_of_none {number : Nat} (unknown : workspace.halves.find? number = none) :
    (workspace.drop name).2.halves.find? number = none := by
  by_cases own : ∃ side, workspace.slot? name = some (.half side number)
  next =>
    obtain ⟨side, there⟩ := own
    rw [find?_drop_of_half there, unknown, Option.bind_none]
  next =>
    rw [find?_drop_of_other (fun side there => own ⟨side, there⟩), unknown]

theorem fst_drop_of_other (other : ∀ sender, workspace.slot? name ≠ some (.sender sender)) :
    (workspace.drop name).1 = [] := by
  unfold drop
  split
  next sender there => exact absurd there (other sender)
  next => rfl
  next => rfl

@[simp] theorem fresh_drop (workspace : Workspace) (name : String) :
    (workspace.drop name).2.halves.fresh = workspace.halves.fresh := by
  unfold drop
  split
  next sender _ => exact Halves.fresh_dropSender _ _
  next receiver _ => exact Halves.fresh_release _ _
  next => rfl

@[simp] theorem fresh_put (workspace : Workspace) (name : String) (slot : Slot) :
    (workspace.put name slot).2.halves.fresh = workspace.halves.fresh :=
  fresh_drop workspace name

inductive Stepping (workspace : Workspace) (name : String) : Command → Step → Prop
  | created (capacity : Nat) (pipe : Pipe) :
      Stepping workspace name (.create capacity)
        ⟨.done, (workspace.put name (.whole pipe)).1, (workspace.put name (.whole pipe)).2⟩
  | misused (capacity : Nat) (misuse : Misuse) :
      Stepping workspace name (.create capacity) ⟨.misuse misuse, [], workspace⟩
  | dropped :
      Stepping workspace name .drop ⟨.done, (workspace.drop name).1, (workspace.drop name).2⟩
  | cloned (target : String) (pipe : Pipe) (there : workspace.slot? name = some (.whole pipe)) :
      Stepping workspace name (.clone target)
        ⟨.done, (workspace.put target (.whole pipe)).1, (workspace.put target (.whole pipe)).2⟩
  | split (pipe : Pipe) (sender receiver : String)
      (there : workspace.slot? name = some (.whole pipe)) :
      Stepping workspace name (.split sender receiver) (workspace.split name pipe sender receiver)
  | reunited (senderName receiverName : String) (sender : Sender) (receiver : Receiver)
      (sending : workspace.slot? senderName = some (.sender sender))
      (receiving : workspace.slot? receiverName = some (.receiver receiver)) :
      Stepping workspace name (.reunite senderName receiverName)
        (workspace.reunite name sender receiver senderName receiverName)
  | asked (request : Request) (slot : Slot) (holder : Holder) (pipe : Pipe)
      (there : workspace.slot? name = some slot)
      (behind : workspace.pipe? slot = some (holder, pipe)) :
      Stepping workspace name (.ask request)
        ⟨(pipe.answer holder request).1, pipe.events request,
          workspace.setPipe name slot (pipe.answer holder request).2⟩

theorem step_cases {command : Command} {step : Step}
    (stepped : workspace.step name command = some step) :
    workspace.Stepping name command step := by
  cases command with
  | create capacity =>
    cases stepped
    unfold create
    split
    next pipe _ => exact .created capacity pipe
    next misuse _ => exact .misused capacity misuse
  | drop =>
    cases stepped
    exact .dropped
  | clone target =>
    simp only [Workspace.step] at stepped
    split at stepped
    next pipe there =>
      cases stepped
      exact .cloned target pipe there
    next => cases stepped
  | split sender receiver =>
    simp only [Workspace.step] at stepped
    split at stepped
    next pipe there =>
      cases stepped
      exact .split pipe sender receiver there
    next => cases stepped
  | reunite senderName receiverName =>
    simp only [Workspace.step] at stepped
    split at stepped
    next sender receiver sending receiving =>
      cases stepped
      exact .reunited senderName receiverName sender receiver sending receiving
    next => cases stepped
  | ask request =>
    simp only [Workspace.step] at stepped
    split at stepped
    next slot there =>
      unfold ask at stepped
      split at stepped
      next holder pipe behind =>
        split at stepped
        next =>
          cases stepped
          exact .asked request slot holder pipe there behind
        next => cases stepped
      next => cases stepped
    next => cases stepped

theorem step_drop (workspace : Workspace) (name : String) :
    workspace.step name .drop =
      some ⟨.done, (workspace.drop name).1, (workspace.drop name).2⟩ := rfl

theorem step_reunite {sender receiver : String} {number second : Nat}
    (sending : workspace.slot? sender = some (.half .sending number))
    (receiving : workspace.slot? receiver = some (.half .receiving second)) :
    workspace.step name (.reunite sender receiver) =
      some (workspace.reunite name ⟨number⟩ ⟨second⟩ sender receiver) := by
  simp [step, sending, receiving, Slot.half]

theorem step_ask_half {side : End} {number : Nat} {shared : Shared}
    (there : workspace.slot? name = some (.half side number))
    (found : workspace.halves.find? number = some shared) (request : Request) :
    workspace.step name (.ask request) =
      if request.permitted (.half side) then
        some ⟨(shared.pipe.answer (.half side) request).1, shared.pipe.events request,
          workspace.setPipe name (.half side number) (shared.pipe.answer (.half side) request).2⟩
      else none := by
  have behind : workspace.pipe? (.half side number) = some (.half side, shared.pipe) := by
    cases side <;> simp [pipe?, Slot.half, Halves.pipe?, found]
  simp only [step, there, ask, behind]

theorem step_ask_whole {pipe : Pipe} (there : workspace.slot? name = some (.whole pipe))
    (request : Request) :
    workspace.step name (.ask request) =
      some ⟨(pipe.answer .whole request).1, pipe.events request,
        workspace.setPipe name (.whole pipe) (pipe.answer .whole request).2⟩ := by
  simp [step, there, ask, pipe?, Request.permitted]

def lastOf : Workspace → List Step → Workspace
  | workspace, [] => workspace
  | _, step :: later => step.after.lastOf later

theorem run_cons_iff {command : Command} {later : List (String × Command)} {steps : List Step} :
    workspace.run ((name, command) :: later) = some steps ↔
      ∃ step rest, workspace.step name command = some step ∧
        step.after.run later = some rest ∧ steps = step :: rest := by
  simp only [run, bind, pure, Option.bind_eq_some_iff, Option.some.injEq, eq_comm (b := steps)]
  grind

theorem run_append {first second : List (String × Command)} {steps rest : List Step}
    (ran : workspace.run first = some steps)
    (followed : (workspace.lastOf steps).run second = some rest) :
    workspace.run (first ++ second) = some (steps ++ rest) := by
  induction first generalizing workspace steps with
  | nil =>
    cases ran
    exact followed
  | cons command later ih =>
    obtain ⟨step, more, stepped, after, rfl⟩ := run_cons_iff.mp ran
    exact run_cons_iff.mpr ⟨step, more ++ rest, stepped, ih after followed, rfl⟩

theorem lastOf_append (workspace : Workspace) (steps rest : List Step) :
    workspace.lastOf (steps ++ rest) = (workspace.lastOf steps).lastOf rest := by
  induction steps generalizing workspace with
  | nil => rfl
  | cons step later ih => exact ih step.after

end Workspace

end Conduit.Pipe
