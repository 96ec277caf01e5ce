import Conduit.Pipe.Halves
set_option autoImplicit false

namespace Conduit.Pipe.Halves

theorem lookup_map {κ α : Type} [DecidableEq κ] (entries : List (κ × α)) (key other : κ)
    (change : α → α) :
    (entries.map fun entry => if entry.1 = key then (entry.1, change entry.2) else entry).lookup
        other =
      if other = key then (entries.lookup other).map change else entries.lookup other := by
  induction entries with
  | nil => simp
  | cons entry rest ih =>
    obtain ⟨own, value⟩ := entry
    by_cases changed : own = key
    next =>
      subst changed
      by_cases here : other = own
      next => simp [here]
      next => simpa [here, List.lookup_cons, beq_eq_false_iff_ne.2 here] using ih
    next =>
      by_cases here : other = own
      next => simp [here, changed]
      next => simpa [here, changed, List.lookup_cons, beq_eq_false_iff_ne.2 here] using ih

theorem lookup_filter_ne {κ α : Type} [DecidableEq κ] (entries : List (κ × α)) (key other : κ) :
    (entries.filter fun entry => entry.1 != key).lookup other =
      if other = key then Option.none else entries.lookup other := by
  induction entries with
  | nil => simp
  | cons entry rest ih =>
    obtain ⟨own, value⟩ := entry
    by_cases gone : own = key
    next =>
      subst gone
      rw [List.filter_cons_of_neg (by simp), ih]
      by_cases here : other = own
      next => rw [if_pos here, if_pos here]
      next => rw [if_neg here, if_neg here, List.lookup_cons, beq_eq_false_iff_ne.2 here]
    next =>
      rw [List.filter_cons_of_pos (by simpa using gone), List.lookup_cons, List.lookup_cons, ih]
      by_cases here : other = own
      next => simp [here, gone]
      next => rw [beq_eq_false_iff_ne.2 here]

theorem find?_update (halves : Halves) (number other : Nat) (change : Shared → Shared) :
    (halves.update number change).find? other =
      if other = number then (halves.find? other).map change else halves.find? other :=
  lookup_map halves.shared number other change

theorem find?_setPipe (halves : Halves) (number : Nat) (shared : Shared) (pipe : Pipe)
    (found : halves.find? number = some shared) :
    (halves.setPipe number pipe).find? number = some { shared with pipe } := by
  rw [setPipe, find?_update, if_pos rfl, found, Option.map_some]

theorem find?_split (halves : Halves) (pipe : Pipe) :
    (halves.split pipe).2.2.find? halves.fresh = some ⟨pipe, 2⟩ := by
  simp [split, find?]

theorem find?_remove (halves : Halves) (number other : Nat) :
    (halves.remove number).find? other =
      if other = number then Option.none else halves.find? other :=
  lookup_filter_ne halves.shared number other

def less (shared : Shared) : Option Shared :=
  if shared.holders ≤ 1 then Option.none else some { shared with holders := shared.holders - 1 }

theorem pipe_of_less {shared left : Shared} (released : less shared = some left) :
    left.pipe = shared.pipe := by
  unfold less at released
  split at released
  next => cases released
  next =>
    cases released
    rfl

theorem find?_release_eq (halves : Halves) (number other : Nat) :
    (halves.release number).find? other =
      if other = number then (halves.find? other).bind less else halves.find? other := by
  unfold release
  split
  next shared found =>
    by_cases last : shared.holders ≤ 1
    next =>
      rw [if_pos last, find?_remove]
      by_cases here : other = number
      next => simp [here, found, less, last]
      next => simp [here]
    next =>
      rw [if_neg last, find?_update]
      by_cases here : other = number
      next => simp [here, found, less, last]
      next => simp [here]
  next nothing =>
    by_cases here : other = number
    next => simp [here, nothing]
    next => simp [here]

theorem find?_release (halves : Halves) (number : Nat) (shared : Shared)
    (found : halves.find? number = some shared) (several : 1 < shared.holders) :
    (halves.release number).find? number =
      some { shared with holders := shared.holders - 1 } := by
  rw [find?_release_eq, if_pos rfl, found, Option.bind_some, less, if_neg (by omega)]

theorem find?_dropSender_eq (halves : Halves) (sender : Sender) (other : Nat) :
    (halves.dropSender sender).2.find? other =
      if other = sender.number then
        (halves.find? other).bind fun shared => less { shared with pipe := shared.pipe.finish }
      else halves.find? other := by
  unfold dropSender
  by_cases here : other = sender.number
  next =>
    subst here
    cases found : halves.find? sender.number with
    | none => simp [pipe?, found]
    | some shared => simp [pipe?, found, find?_release_eq, find?_setPipe _ _ _ _ found]
  next =>
    split
    next pipe _ => simp [find?_release_eq, setPipe, find?_update, here]
    next => simp [here]

theorem find?_dropSender (halves : Halves) (sender : Sender) (pipe : Pipe)
    (found : halves.find? sender.number = some ⟨pipe, 2⟩) :
    (halves.dropSender sender).2.find? sender.number = some ⟨pipe.finish, 1⟩ := by
  rw [find?_dropSender_eq, if_pos rfl, found]
  rfl

theorem reunite_of_two {halves : Halves} {number : Nat} {pipe : Pipe}
    (found : halves.find? number = some ⟨pipe, 2⟩) :
    halves.reunite ⟨number⟩ ⟨number⟩ = some (pipe, (halves.release number).remove number) := by
  have released := find?_release halves number _ found Nat.one_lt_two
  simp [reunite, takeBack, released]

theorem fresh_release (halves : Halves) (number : Nat) :
    (halves.release number).fresh = halves.fresh := by
  unfold release
  split
  next => split <;> rfl
  next => rfl

theorem fresh_dropSender (halves : Halves) (sender : Sender) :
    (halves.dropSender sender).2.fresh = halves.fresh := by
  unfold dropSender
  split
  next => exact fresh_release _ _
  next => rfl

-- What one half does while it holds the lock on the pipe.
def locked {α : Type} (halves : Halves) (number : Nat) (act : Pipe → α × Pipe) :
    Option (α × Halves) :=
  (halves.pipe? number).map fun pipe =>
    let (result, after) := act pipe
    (result, halves.setPipe number after)

theorem locked_eq {α : Type} (halves : Halves) (number : Nat) (shared : Shared)
    (act : Pipe → α × Pipe) (found : halves.find? number = some shared) :
    halves.locked number act =
      some ((act shared.pipe).1, halves.setPipe number (act shared.pipe).2) := by
  rw [locked, pipe?, found, Option.map_some, Option.map_some]

end Conduit.Pipe.Halves
