import Conduit.Proofs.Pipe.Slots
import Mathlib.Logic.Function.Basic
set_option autoImplicit false

namespace Conduit.Pipe

namespace Halves

def holders? (halves : Halves) (number : Nat) : Option Nat :=
  (halves.find? number).map (·.holders)

theorem holders?_setPipe (halves : Halves) (number other : Nat) (pipe : Pipe) :
    (halves.setPipe number pipe).holders? other = halves.holders? other := by
  rw [holders?, setPipe, find?_update]
  split
  next => rw [holders?, Option.map_map]; rfl
  next => rfl

def tally : Nat → Option Nat
  | 0 => Option.none
  | count + 1 => some (count + 1)

theorem tally_injective {count other : Nat} (same : tally count = tally other) : count = other := by
  cases count <;> cases other <;> simp_all [tally]

theorem map_holders_less {shared : Shared} {count : Nat} (counted : shared.holders = count + 1) :
    (less shared).map (·.holders) = tally count := by
  cases count <;> simp [less, counted, tally]

end Halves

open Halves (tally)

abbrev Places := End → Option String

namespace Places

variable {places : Places} {side : End} {name : String}

def nowhere : Places := fun _ => none

def count (places : Places) : Nat :=
  (places .sending).toList.length + (places .receiving).toList.length

def without (places : Places) (side : End) : Places := Function.update places side none

def withHalf (places : Places) (side : End) (name : String) : Places :=
  Function.update places side (some name)

theorem without_eq_some {part : End} {other : String} :
    places.without side part = some other ↔ part ≠ side ∧ places part = some other := by
  by_cases same : part = side <;> simp [without, same]

theorem withHalf_eq_some {part : End} {other : String} (missing : places side = none) :
    places.withHalf side name part = some other ↔
      part = side ∧ name = other ∨ places part = some other := by
  by_cases same : part = side <;> simp [withHalf, same, missing]

theorem count_without (there : places side = some name) :
    (places.without side).count + 1 = places.count := by
  cases side with
  | sending =>
    simp [count, without, there, Function.update]
    omega
  | receiving => simp [count, without, there, Function.update]

theorem count_withHalf (missing : places side = none) (name : String) :
    (places.withHalf side name).count = places.count + 1 := by
  cases side with
  | sending =>
    simp [count, withHalf, missing, Function.update]
    omega
  | receiving => simp [count, withHalf, missing, Function.update]

theorem eq_nowhere_of_count (none : places.count = 0) : places = nowhere := by
  funext side
  simp only [count, Nat.add_eq_zero_iff, List.length_eq_zero_iff, Option.toList_eq_nil_iff] at none
  cases side
  next => exact none.1
  next => exact none.2

end Places

namespace Workspace

variable {workspace : Workspace} {name : String} {number loose : Nat} {places : Places} {side : End}

structure Held (workspace : Workspace) (number : Nat) (places : Places) (loose : Nat) : Prop where
  slot?_iff : ∀ side name, workspace.slot? name = some (.half side number) ↔ places side = some name
  holders?_eq : workspace.halves.holders? number = tally (places.count + loose)

namespace Held

theorem forget_other (held : workspace.Held number places loose)
    (other : ∀ side, workspace.slot? name ≠ some (.half side number)) :
    (workspace.forget name).Held number places loose := by
  refine ⟨fun side place => ?_, held.holders?_eq⟩
  rw [slot?_forget, ← held.slot?_iff]
  by_cases here : place = name
  next => simpa [here] using other side
  next => rw [if_neg here]

theorem moved (held : workspace.Held number places loose) {after : Workspace} {others : Places}
    {left : Nat} (halves : after.halves = workspace.halves)
    (counted : others.count + left = places.count + loose)
    (slots : ∀ side name, after.slot? name = some (.half side number) ↔ others side = some name) :
    after.Held number others left :=
  ⟨slots, by rw [halves, held.holders?_eq, counted]⟩

theorem forget_half (held : workspace.Held number places loose)
    (there : workspace.slot? name = some (.half side number)) :
    (workspace.forget name).Held number (places.without side) (loose + 1) := by
  have place := (held.slot?_iff side name).mp there
  have counted := Places.count_without place
  refine held.moved rfl (by omega) fun part other => ?_
  rw [slot?_forget, Places.without_eq_some, ← held.slot?_iff]
  by_cases here : other = name
  next =>
    -- The other kind of half is not in this slot.
    subst here
    simpa [there] using fun apart same => absurd same.symm apart
  next =>
    rw [if_neg here, iff_and_self]
    rintro held_there rfl
    exact here (Option.some.inj (((held.slot?_iff part other).mp held_there).symm.trans place))

theorem fill_other {slot : Slot} (held : workspace.Held number places loose)
    (vacant : workspace.slot? name = none) (other : ∀ side, slot ≠ .half side number) :
    (workspace.fill name slot).Held number places loose := by
  refine ⟨fun side place => ?_, held.holders?_eq⟩
  rw [slot?_fill vacant, ← held.slot?_iff]
  by_cases here : place = name
  next => simp [here, vacant, other side]
  next => rw [if_neg here]

theorem fill_half (held : workspace.Held number places (loose + 1))
    (vacant : workspace.slot? name = none) (missing : places side = none) :
    (workspace.fill name (.half side number)).Held number (places.withHalf side name) loose := by
  have counted := Places.count_withHalf missing name
  refine held.moved rfl (by omega) fun part other => ?_
  rw [slot?_fill vacant, Places.withHalf_eq_some missing, ← held.slot?_iff]
  by_cases here : other = name
  next => simp [here, vacant, eq_comm]
  next => simp [here, Ne.symm here]

theorem of_holders?_eq (held : workspace.Held number places loose) {halves : Halves}
    (same : halves.holders? number = workspace.halves.holders? number) :
    { workspace with halves }.Held number places loose :=
  ⟨held.slot?_iff, same.trans held.holders?_eq⟩

theorem of_less (held : workspace.Held number places (loose + 1)) {halves : Halves}
    (change : Shared → Shared) (same : ∀ shared, (change shared).holders = shared.holders)
    (released : halves.find? number =
      (workspace.halves.find? number).bind fun shared => Halves.less (change shared)) :
    { workspace with halves }.Held number places loose := by
  refine ⟨held.slot?_iff, ?_⟩
  have before := held.holders?_eq
  show (halves.find? number).map (·.holders) = _
  cases found : workspace.halves.find? number with
  | none => simp [Halves.holders?, found, tally] at before
  | some shared =>
    rw [released, found, Option.bind_some]
    refine Halves.map_holders_less ((same shared).trans ?_)
    simpa [Halves.holders?, found, tally, ← Nat.add_assoc] using before

theorem drop (held : workspace.Held number places loose) (name : String) :
    ∃ left : Places, (workspace.drop name).2.Held number left loose ∧
      ∀ side, places side = none → left side = none := by
  rw [drop_snd]
  by_cases own : ∃ side, workspace.slot? name = some (.half side number)
  next =>
    obtain ⟨side, there⟩ := own
    refine ⟨places.without side, (held.forget_half there).of_less _ ?_ (find?_drop_of_half there), ?_⟩
    next => exact fun shared => by split <;> rfl
    next =>
      intro other missing
      by_cases same : other = side
      next => simp [Places.without, same]
      next => simpa [Places.without, same] using missing
  next =>
    have other : ∀ side, workspace.slot? name ≠ some (.half side number) :=
      fun side there => own ⟨side, there⟩
    refine ⟨places, (held.forget_other other).of_holders?_eq ?_, fun _ missing => missing⟩
    simp [Halves.holders?, find?_drop_of_other other, forget]

theorem put_other {slot : Slot} (held : workspace.Held number places loose) (name : String)
    (other : ∀ side, slot ≠ .half side number) :
    ∃ left : Places, (workspace.put name slot).2.Held number left loose ∧
      ∀ side, places side = none → left side = none := by
  obtain ⟨left, dropped, missing⟩ := held.drop name
  exact ⟨left, dropped.fill_other (by simp) other, missing⟩

theorem put_half (held : workspace.Held number places (loose + 1)) (name : String)
    (missing : places side = none) :
    ∃ left : Places, (workspace.put name (.half side number)).2.Held number left loose ∧
      ∀ other, other ≠ side → places other = none → left other = none := by
  obtain ⟨left, dropped, still⟩ := held.drop name
  refine ⟨_, dropped.fill_half (by simp) (still side missing), fun other apart none => ?_⟩
  rw [Places.withHalf, Function.update_of_ne apart]
  exact still other none

end Held

/-- All halves are in slots, and numbers that are still to be given out stand for nothing. -/
structure Consistent (workspace : Workspace) : Prop where
  held : ∀ number, ∃ places, workspace.Held number places 0
  beyond : ∀ number, workspace.halves.fresh ≤ number → workspace.halves.find? number = none

theorem empty_consistent : empty.Consistent :=
  ⟨fun _ => ⟨Places.nowhere, fun _ _ => by simp [slot?, empty, Places.nowhere], rfl⟩, fun _ _ => rfl⟩

def divided (workspace : Workspace) (name : String) (pipe : Pipe) : Workspace :=
  { workspace.forget name with halves := (workspace.halves.split pipe).2.2 }

def joined (workspace : Workspace) (sender receiver : String) (number : Nat) : Workspace :=
  { (workspace.forget sender).forget receiver with
    halves := (workspace.halves.release number).remove number }

theorem after_split (workspace : Workspace) (name : String) (pipe : Pipe)
    (sender receiver : String) :
    (workspace.split name pipe sender receiver).after =
      (((workspace.divided name pipe).put sender (.half .sending workspace.halves.fresh)).2.put
        receiver (.half .receiving workspace.halves.fresh)).2 := rfl

theorem slot?_split (workspace : Workspace) (name other : String) (pipe : Pipe)
    (sender receiver : String) :
    (workspace.split name pipe sender receiver).after.slot? other =
      if other = receiver then some (.half .receiving workspace.halves.fresh)
      else if other = sender then some (.half .sending workspace.halves.fresh)
      else if other = name then none else workspace.slot? other := by
  rw [after_split, slot?_put, slot?_put]
  exact congrArg _ (congrArg _ slot?_forget)

theorem fresh_split (workspace : Workspace) (name : String) (pipe : Pipe)
    (sender receiver : String) :
    (workspace.split name pipe sender receiver).after.halves.fresh = workspace.halves.fresh + 1 := by
  simp [split, Halves.split]

theorem slot?_joined (workspace : Workspace) (sender receiver other : String) (number : Nat) :
    (workspace.joined sender receiver number).slot? other =
      if other = receiver then none else if other = sender then none else workspace.slot? other := by
  show ((workspace.forget sender).forget receiver).slot? other = _
  rw [slot?_forget, slot?_forget]

theorem slot?_of_joined {sender receiver : String} {slot : Slot}
    (there : (workspace.joined sender receiver number).slot? name = some slot) :
    workspace.slot? name = some slot := by
  rw [slot?_joined] at there
  split at there
  next => cases there
  split at there
  next => cases there
  next => exact there

theorem find?_joined (workspace : Workspace) (sender receiver : String) (number other : Nat) :
    (workspace.joined sender receiver number).halves.find? other =
      if other = number then none else workspace.halves.find? other := by
  show ((workspace.halves.release number).remove number).find? other = _
  rw [Halves.find?_remove, Halves.find?_release_eq]
  split <;> rfl

theorem reunite_of_two {pipe : Pipe} (found : workspace.halves.find? number = some ⟨pipe, 2⟩)
    (name sender receiver : String) :
    workspace.reunite name ⟨number⟩ ⟨number⟩ sender receiver =
      ⟨.reunited, ((workspace.joined sender receiver number).put name (.whole pipe)).1,
        ((workspace.joined sender receiver number).put name (.whole pipe)).2⟩ := by
  rw [reunite, Halves.reunite_of_two found]
  rfl

theorem reunite_of_foreign {sender : Sender} {receiver : Receiver}
    (foreign : sender.number ≠ receiver.number) (senderName receiverName : String) :
    workspace.reunite name sender receiver senderName receiverName =
      ⟨.foreignHalves, [], workspace⟩ := by
  simp [reunite, Halves.reunite, foreign]

namespace Consistent

variable {sender receiver : String} {pipe : Pipe}

theorem unique (consistent : workspace.Consistent) {other : String}
    (here : workspace.slot? name = some (.half side number))
    (there : workspace.slot? other = some (.half side number)) : name = other := by
  obtain ⟨places, held⟩ := consistent.held number
  rw [held.slot?_iff] at here there
  exact Option.some.inj (here.symm.trans there)

theorem find?_isSome (consistent : workspace.Consistent)
    (there : workspace.slot? name = some (.half side number)) :
    ∃ shared, workspace.halves.find? number = some shared := by
  obtain ⟨places, held⟩ := consistent.held number
  have counted := Places.count_without ((held.slot?_iff side name).mp there)
  have holders := held.holders?_eq
  rw [← counted] at holders
  cases found : workspace.halves.find? number with
  | none => simp [Halves.holders?, found, tally] at holders
  | some shared => exact ⟨shared, rfl⟩

theorem lt_fresh (consistent : workspace.Consistent)
    (there : workspace.slot? name = some (.half side number)) :
    number < workspace.halves.fresh := by
  obtain ⟨shared, found⟩ := consistent.find?_isSome there
  by_contra beyond
  rw [consistent.beyond number (Nat.le_of_not_lt beyond)] at found
  cases found

theorem find?_of_both (consistent : workspace.Consistent)
    (sending : workspace.slot? sender = some (.half .sending number))
    (receiving : workspace.slot? receiver = some (.half .receiving number)) :
    ∃ pipe, workspace.halves.find? number = some ⟨pipe, 2⟩ := by
  obtain ⟨places, held⟩ := consistent.held number
  obtain ⟨⟨pipe, holders⟩, found⟩ := consistent.find?_isSome sending
  have counted := held.holders?_eq
  rw [held.slot?_iff] at sending receiving
  simp [Halves.holders?, found, Places.count, sending, receiving, tally] at counted
  exact ⟨pipe, by rw [found, counted]⟩

theorem nowhere_of_fresh (consistent : workspace.Consistent) :
    workspace.Held workspace.halves.fresh Places.nowhere 0 := by
  obtain ⟨places, held⟩ := consistent.held workspace.halves.fresh
  have none : places.count + 0 = 0 := by
    apply Halves.tally_injective
    rw [← held.holders?_eq, Halves.holders?, consistent.beyond _ (Nat.le_refl _)]
    rfl
  rwa [← Places.eq_nowhere_of_count none]

theorem drop (consistent : workspace.Consistent) (name : String) :
    (workspace.drop name).2.Consistent := by
  refine ⟨fun number => ?_, fun number beyond => ?_⟩
  next =>
    obtain ⟨places, held⟩ := consistent.held number
    obtain ⟨left, dropped, -⟩ := held.drop name
    exact ⟨left, dropped⟩
  next =>
    rw [fresh_drop] at beyond
    exact find?_drop_of_none (consistent.beyond number beyond)

theorem put_whole (consistent : workspace.Consistent) (name : String) (pipe : Pipe) :
    (workspace.put name (.whole pipe)).2.Consistent := by
  refine ⟨fun number => ?_, (consistent.drop name).beyond⟩
  obtain ⟨places, held⟩ := consistent.held number
  obtain ⟨left, filled, -⟩ := held.put_other name fun side => Slot.whole_ne_half pipe
  exact ⟨left, filled⟩

theorem setPipe (consistent : workspace.Consistent) {slot : Slot}
    (there : workspace.slot? name = some slot) (pipe : Pipe) :
    (workspace.setPipe name slot pipe).Consistent := by
  cases slot with
  | whole before =>
    refine ⟨fun number => ?_, consistent.beyond⟩
    obtain ⟨places, held⟩ := consistent.held number
    refine ⟨places, fun side other => ?_, held.holders?_eq⟩
    rw [slot?_setPipe_whole, ← held.slot?_iff]
    by_cases here : other = name
    next => simp [here, there]
    next => rw [if_neg here]
  | sender sender | receiver receiver =>
    refine ⟨fun number => ?_, fun number beyond => ?_⟩
    next =>
      obtain ⟨places, held⟩ := consistent.held number
      exact ⟨places, held.of_holders?_eq (Halves.holders?_setPipe ..)⟩
    next =>
      have unknown := consistent.beyond number beyond
      simp [Workspace.setPipe, Halves.setPipe, Halves.find?_update, unknown]

theorem divided_held (consistent : workspace.Consistent)
    (there : workspace.slot? name = some (.whole pipe)) (number : Nat) :
    if number = workspace.halves.fresh then
      (divided workspace name pipe).Held number Places.nowhere 2
    else ∃ places, (divided workspace name pipe).Held number places 0 := by
  have other (number : Nat) (side : End) : workspace.slot? name ≠ some (.half side number) := by
    simp [there]
  split
  next new =>
    subst new
    refine ⟨(consistent.nowhere_of_fresh.forget_other (other _)).slot?_iff, ?_⟩
    simp [divided, Halves.holders?, Halves.find?_split, Places.count, Places.nowhere, tally]
  next old =>
    obtain ⟨places, held⟩ := consistent.held number
    refine ⟨places, (held.forget_other (other _)).of_holders?_eq ?_⟩
    simp [Halves.holders?, Halves.split, Halves.find?, List.lookup_cons, beq_eq_false_iff_ne.2 old,
      forget]

theorem split (consistent : workspace.Consistent)
    (there : workspace.slot? name = some (.whole pipe)) (sender receiver : String) :
    (workspace.split name pipe sender receiver).after.Consistent := by
  refine ⟨fun number => ?_, fun number beyond => ?_⟩
  next =>
    rw [after_split]
    have held := consistent.divided_held there number
    split at held
    next new =>
      subst new
      -- Each half leaves the hand for its slot.
      obtain ⟨left, first, missing⟩ :=
        held.put_half sender (rfl : Places.nowhere .sending = none)
      obtain ⟨last, second, -⟩ := first.put_half receiver (missing .receiving nofun rfl)
      exact ⟨last, second⟩
    next old =>
      obtain ⟨places, held⟩ := held
      have apart (side other : End) : Slot.half side workspace.halves.fresh ≠ .half other number := by
        simp [Ne.symm old]
      obtain ⟨left, first, -⟩ := held.put_other sender (apart .sending)
      obtain ⟨last, second, -⟩ := first.put_other receiver (apart .receiving)
      exact ⟨last, second⟩
  next =>
    replace beyond : workspace.halves.fresh + 1 ≤ number := by
      simpa [Workspace.split, Halves.split] using beyond
    have unknown : (workspace.halves.split pipe).2.2.find? number = none := by
      have old : number ≠ workspace.halves.fresh := by omega
      have before := consistent.beyond number (by omega)
      simpa [Halves.split, Halves.find?, List.lookup_cons, beq_eq_false_iff_ne.2 old] using before
    exact find?_drop_of_none (find?_drop_of_none unknown)

theorem joined (consistent : workspace.Consistent)
    (sending : workspace.slot? sender = some (.half .sending number))
    (receiving : workspace.slot? receiver = some (.half .receiving number)) :
    (workspace.joined sender receiver number).Consistent := by
  have apart : receiver ≠ sender := by
    rintro rfl
    simpa using sending.symm.trans receiving
  obtain ⟨pipe, found⟩ := consistent.find?_of_both sending receiving
  refine ⟨fun other => ?_, fun other beyond => ?_⟩
  next =>
    obtain ⟨places, held⟩ := consistent.held other
    by_cases here : other = number
    next =>
      subst here
      have second : (workspace.forget sender).slot? receiver = some (.half .receiving other) := by
        simp [apart, receiving]
      have free := (held.forget_half sending).forget_half second
      -- Two halves were counted, and both are in the hand now.
      have none : ((places.without .sending).without .receiving).count = 0 := by
        have counted := free.holders?_eq
        have two : workspace.halves.holders? other = tally 2 := by simp [Halves.holders?, found, tally]
        have same := Halves.tally_injective (two.symm.trans counted)
        omega
      refine ⟨_, free.slot?_iff, ?_⟩
      simp [Halves.holders?, find?_joined, none, tally]
    next =>
      have first : ∀ side, workspace.slot? sender ≠ some (.half side other) := by
        simp [sending, Ne.symm here]
      have second : ∀ side, (workspace.forget sender).slot? receiver ≠ some (.half side other) := by
        simp [apart, receiving, Ne.symm here]
      refine ⟨places, ((held.forget_other first).forget_other second).of_holders?_eq ?_⟩
      show (workspace.joined sender receiver number).halves.holders? other = _
      rw [Halves.holders?, find?_joined, if_neg here]
      rfl
  next =>
    have fresh : ((workspace.halves.release number).remove number).fresh = workspace.halves.fresh :=
      Halves.fresh_release ..
    replace beyond : workspace.halves.fresh ≤ other := fresh ▸ beyond
    rw [find?_joined, consistent.beyond other beyond, ite_self]

theorem number_ne_of_joined (consistent : workspace.Consistent)
    (sending : workspace.slot? sender = some (.half .sending number))
    (receiving : workspace.slot? receiver = some (.half .receiving number)) {other : Nat}
    (there : (workspace.joined sender receiver number).slot? name = some (.half side other)) :
    other ≠ number := by
  rintro rfl
  obtain ⟨shared, found⟩ := (consistent.joined sending receiving).find?_isSome there
  rw [find?_joined, if_pos rfl] at found
  cases found

theorem reunite_eq (consistent : workspace.Consistent)
    (sending : workspace.slot? sender = some (.half .sending number))
    (receiving : workspace.slot? receiver = some (.half .receiving number)) :
    ∃ pipe,
      workspace.halves.find? number = some ⟨pipe, 2⟩ ∧
      (workspace.halves.release number).find? number = some ⟨pipe, 1⟩ ∧
      workspace.halves.reunite ⟨number⟩ ⟨number⟩ =
        some (pipe, (workspace.halves.release number).remove number) ∧
      workspace.reunite name ⟨number⟩ ⟨number⟩ sender receiver =
        ⟨.reunited, ((workspace.joined sender receiver number).put name (.whole pipe)).1,
          ((workspace.joined sender receiver number).put name (.whole pipe)).2⟩ := by
  obtain ⟨pipe, found⟩ := consistent.find?_of_both sending receiving
  exact ⟨pipe, found, Halves.find?_release _ _ _ found Nat.one_lt_two,
    Halves.reunite_of_two found, reunite_of_two found ..⟩

theorem step (consistent : workspace.Consistent) {command : Command} {step : Step}
    (stepped : workspace.step name command = some step) : step.after.Consistent := by
  cases step_cases stepped with
  | created capacity pipe => exact consistent.put_whole name pipe
  | misused capacity misuse => exact consistent
  | dropped => exact consistent.drop name
  | cloned target pipe there => exact consistent.put_whole target pipe
  | split pipe sender receiver there => exact consistent.split there sender receiver
  | asked request slot holder pipe there behind => exact consistent.setPipe there _
  | reunited senderName receiverName sender receiver sending receiving =>
    by_cases foreign : sender.number = receiver.number
    next =>
      obtain ⟨number⟩ := sender
      obtain ⟨_⟩ := receiver
      cases foreign
      obtain ⟨pipe, -, -, -, reunited⟩ := consistent.reunite_eq sending receiving
      rw [reunited]
      exact (consistent.joined sending receiving).put_whole name pipe
    next => rwa [reunite_of_foreign foreign]

theorem run (consistent : workspace.Consistent) {commands : List (String × Command)}
    {steps : List Step} (ran : workspace.run commands = some steps) :
    (workspace.lastOf steps).Consistent := by
  induction commands generalizing workspace steps with
  | nil =>
    cases ran
    exact consistent
  | cons command later ih =>
    obtain ⟨step, rest, stepped, followed, rfl⟩ := run_cons_iff.mp ran
    exact ih (consistent.step stepped) followed

end Consistent

end Workspace

end Conduit.Pipe
