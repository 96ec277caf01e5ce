import Conduit.Proofs.Pipe.Ownership
set_option autoImplicit false

namespace Conduit.Pipe

abbrev Origins := String → Option Nat

namespace Origins

def none : Origins := fun _ => .none

def note (origins : Origins) (place : Nat) (name : String) : Command → Reply → Origins
  | .create _, .done | .drop, _ => Function.update origins name .none
  | .clone target, _ => Function.update origins target .none
  | .split sender receiver, _ =>
      Function.update
        (Function.update (Function.update origins name .none) sender (some place))
        receiver (some place)
  | .reunite sender receiver, .reunited =>
      Function.update (Function.update (Function.update origins sender .none) receiver .none)
        name .none
  | _, _ => origins

def after (origins : Origins) (place : Nat) : List (String × Command) → List Step → Origins
  | (name, command) :: commands, step :: steps =>
      (origins.note place name command step.reply).after (place + 1) commands steps
  | _, _ => origins

end Origins

namespace Workspace

variable {workspace : Workspace} {name : String} {origins : Origins} {place : Nat}

structure Traced (workspace : Workspace) (origins : Origins) (place : Nat) (births : List Nat) :
    Prop where
  length_eq : births.length = workspace.halves.fresh
  distinct : births.Nodup
  past : ∀ birth ∈ births, birth < place
  born : ∀ name side number, workspace.slot? name = some (.half side number) →
    ∃ birth, births[number]? = some birth ∧ origins name = some birth

namespace Traced

variable {births : List Nat}

theorem unborn (traced : workspace.Traced origins place births) {after : Workspace}
    {later : Origins} (fresh : after.halves.fresh = workspace.halves.fresh)
    (kept : ∀ name side number, after.slot? name = some (.half side number) →
      workspace.slot? name = some (.half side number) ∧ later name = origins name) :
    after.Traced later (place + 1) births := by
  refine ⟨traced.length_eq.trans fresh.symm, traced.distinct, ?_, ?_⟩
  next => exact fun birth among => Nat.lt_succ_of_lt (traced.past birth among)
  next =>
    intro name side number there
    obtain ⟨before, same⟩ := kept name side number there
    rw [same]
    exact traced.born name side number before

theorem split (traced : workspace.Traced origins place births) (pipe : Pipe)
    (sender receiver : String) :
    (workspace.split name pipe sender receiver).after.Traced
      (origins.note place name (.split sender receiver) .done) (place + 1) (births ++ [place]) := by
  have new : (births ++ [place])[workspace.halves.fresh]? = some place := by
    simp [← traced.length_eq]
  refine ⟨by simp [fresh_split, traced.length_eq], ?_, ?_, ?_⟩
  next =>
    refine List.nodup_append.mpr ⟨traced.distinct, by simp, ?_⟩
    intro birth among new isNew
    cases List.mem_singleton.mp isNew
    exact Nat.ne_of_lt (traced.past birth among)
  next =>
    intro birth among
    rcases List.mem_append.mp among with old | new
    next => exact Nat.lt_succ_of_lt (traced.past birth old)
    next => simp_all
  next =>
    intro other side number there
    rw [slot?_split] at there
    simp only [Origins.note, Function.update_apply]
    split at there
    next here =>
      cases (Slot.half_inj.mp (Option.some.inj there)).2
      exact ⟨place, new, if_pos here⟩
    next apart =>
      rw [if_neg apart]
      split at there
      next here =>
        cases (Slot.half_inj.mp (Option.some.inj there)).2
        exact ⟨place, new, if_pos here⟩
      next apart =>
        rw [if_neg apart]
        split at there
        next => cases there
        next apart =>
          rw [if_neg apart]
          obtain ⟨birth, found, same⟩ := traced.born other side number there
          have old := (List.getElem?_eq_some_iff.mp found).1
          exact ⟨birth, (List.getElem?_append_left old).trans found, same⟩

theorem step (traced : workspace.Traced origins place births) (consistent : workspace.Consistent)
    {command : Command} {step : Step} (stepped : workspace.step name command = some step) :
    ∃ later, step.after.Traced (origins.note place name command step.reply) (place + 1) later := by
  cases step_cases stepped with
  | created capacity pipe | cloned name pipe there =>
    refine ⟨births, traced.unborn (fresh_put ..) fun other side number there => ?_⟩
    rw [slot?_put] at there
    split at there
    next => simp at there
    next apart => exact ⟨there, Function.update_of_ne apart ..⟩
  | misused capacity misuse =>
    exact ⟨births, traced.unborn rfl fun _ _ _ there => ⟨there, rfl⟩⟩
  | dropped =>
    refine ⟨births, traced.unborn (fresh_drop ..) fun other side number there => ?_⟩
    rw [slot?_drop] at there
    split at there
    next => cases there
    next apart => exact ⟨there, Function.update_of_ne apart ..⟩
  | split pipe sender receiver there => exact ⟨_, traced.split pipe sender receiver⟩
  | asked request slot holder pipe there behind =>
    refine ⟨births, traced.unborn ?_ fun other side number half => ⟨?_, rfl⟩⟩
    next => cases slot <;> rfl
    next =>
      cases slot with
      | sender | receiver => exact half
      | whole before =>
        rw [slot?_setPipe_whole] at half
        split at half
        next here =>
          subst here
          simp [there] at half
        next => exact half
  | reunited senderName receiverName sender receiver sending receiving =>
    by_cases foreign : sender.number = receiver.number
    next =>
      obtain ⟨number⟩ := sender
      obtain ⟨_⟩ := receiver
      cases foreign
      obtain ⟨pipe, -, -, -, reunited⟩ := consistent.reunite_eq sending receiving
      rw [reunited]
      refine ⟨births, traced.unborn ?_ fun other side number there => ?_⟩
      next => exact (fresh_put ..).trans (Halves.fresh_release ..)
      next =>
        rw [slot?_put, slot?_joined] at there
        simp only [Origins.note, Function.update_apply]
        grind [Slot.whole_ne_half]
    next =>
      rw [reunite_of_foreign foreign]
      exact ⟨births, traced.unborn rfl fun _ _ _ there => ⟨there, rfl⟩⟩

theorem run (traced : workspace.Traced origins place births) (consistent : workspace.Consistent)
    {commands : List (String × Command)} {steps : List Step}
    (ran : workspace.run commands = some steps) :
    ∃ last later,
      (workspace.lastOf steps).Traced (origins.after place commands steps) last later := by
  induction commands generalizing workspace origins place births steps with
  | nil =>
    cases ran
    exact ⟨place, births, traced⟩
  | cons command commands ih =>
    obtain ⟨step, rest, stepped, followed, rfl⟩ := run_cons_iff.mp ran
    obtain ⟨later, next⟩ := traced.step consistent stepped
    exact ih next (consistent.step stepped) followed

theorem number_eq_iff (traced : workspace.Traced origins place births) {other : String}
    {side opposite : End} {number second : Nat}
    (here : workspace.slot? name = some (.half side number))
    (there : workspace.slot? other = some (.half opposite second)) :
    number = second ↔ origins name = origins other := by
  obtain ⟨birth, found, known⟩ := traced.born _ _ _ here
  obtain ⟨birth', found', known'⟩ := traced.born _ _ _ there
  rw [known, known', ← found, ← found']
  exact (List.getElem?_inj (List.getElem?_eq_some_iff.mp found).1 traced.distinct).symm

end Traced

/-- The halves are handed back, each as good as before, and all else is as it was. -/
structure Refused (workspace : Workspace) (sender receiver : String) (step : Step) : Prop where
  reply_eq : step.reply = .foreignHalves
  events_eq : step.events = []
  after_eq : step.after = workspace
  sender_answers : ∀ request, (workspace.step sender (.ask request)).isSome =
    request.permitted (.half .sending)
  receiver_answers : ∀ request, (workspace.step receiver (.ask request)).isSome =
    request.permitted (.half .receiving)

/-- The halves are given up for their pipe, which is taken as it is and not copied. Only what was in the
slot that gets it may be touched besides. -/
structure Rejoined (workspace : Workspace) (name sender receiver : String) (number : Nat) (pipe : Pipe)
    (step : Step) : Prop where
  reply_eq : step.reply = .reunited
  two_holders : workspace.halves.find? number = some ⟨pipe, 2⟩
  last_holder : (workspace.halves.release number).find? number = some ⟨pipe, 1⟩
  taken : workspace.halves.reunite ⟨number⟩ ⟨number⟩ =
    some (pipe, (workspace.halves.release number).remove number)
  slot?_name : step.after.slot? name = some (.whole pipe)
  slot?_half : ∀ half, half = sender ∨ half = receiver → half ≠ name →
    step.after.slot? half = none
  slot?_other : ∀ other, other ≠ name → other ≠ sender → other ≠ receiver →
    step.after.slot? other = workspace.slot? other
  find?_number : step.after.halves.find? number = none
  find?_other : ∀ other, other ≠ number →
    (∀ side, workspace.slot? name ≠ some (.half side other)) →
      step.after.halves.find? other = workspace.halves.find? other
  events_eq : (∀ other, other ≠ number → workspace.slot? name ≠ some (.half .sending other)) →
    step.events = []

namespace Consistent

variable {sender receiver : String} {number other : Nat}

theorem isSome_ask (consistent : workspace.Consistent) {side : End}
    (there : workspace.slot? name = some (.half side number)) (request : Request) :
    (workspace.step name (.ask request)).isSome = request.permitted (.half side) := by
  obtain ⟨shared, found⟩ := consistent.find?_isSome there
  rw [step_ask_half there found]
  split
  next permitted => rw [permitted, Option.isSome_some]
  next forbidden => simpa using forbidden

theorem refused (consistent : workspace.Consistent) (name : String)
    (sending : workspace.slot? sender = some (.half .sending number))
    (receiving : workspace.slot? receiver = some (.half .receiving other))
    (foreign : number ≠ other) :
    Refused workspace sender receiver
      (workspace.reunite name ⟨number⟩ ⟨other⟩ sender receiver) := by
  rw [reunite_of_foreign foreign]
  exact ⟨rfl, rfl, rfl, consistent.isSome_ask sending, consistent.isSome_ask receiving⟩

theorem rejoined (consistent : workspace.Consistent) (name : String)
    (sending : workspace.slot? sender = some (.half .sending number))
    (receiving : workspace.slot? receiver = some (.half .receiving number)) :
    ∃ pipe, Rejoined workspace name sender receiver number pipe
      (workspace.reunite name ⟨number⟩ ⟨number⟩ sender receiver) := by
  obtain ⟨pipe, two, one, taken, reunited⟩ := consistent.reunite_eq sending receiving
  refine ⟨pipe, ?_⟩
  rw [reunited]
  refine ⟨rfl, two, one, taken, by simp, ?_, ?_, ?_, ?_, ?_⟩
  next =>
    intro half given apart
    rw [slot?_put, if_neg apart, slot?_joined]
    rcases given with rfl | rfl
    next => split <;> simp
    next => rw [if_pos rfl]
  next =>
    intro other apart notSender notReceiver
    rw [slot?_put, if_neg apart, slot?_joined, if_neg notReceiver, if_neg notSender]
  next =>
    apply find?_drop_of_none
    rw [find?_joined, if_pos rfl]
  next =>
    intro other apart elsewhere
    refine (find?_drop_of_other fun side held => elsewhere side (slot?_of_joined held)).trans ?_
    rw [find?_joined, if_neg apart]
  next =>
    -- A sender that makes room for the pipe belongs to another one.
    intro elsewhere
    apply fst_drop_of_other
    intro sender held
    rw [Slot.sender_eq_half] at held
    exact elsewhere sender.number (consistent.number_ne_of_joined sending receiving held)
      (slot?_of_joined held)

end Consistent

/-- In every split at most one half of each kind is left, and two halves can be joined exactly if they
come from the same split. -/
structure Paired (workspace : Workspace) (origins : Origins) : Prop where
  known : ∀ name side number, workspace.slot? name = some (.half side number) →
    (origins name).isSome
  only : ∀ name other side number second, workspace.slot? name = some (.half side number) →
    workspace.slot? other = some (.half side second) → origins name = origins other → name = other
  reunite : ∀ name sender receiver number second,
    workspace.slot? sender = some (.half .sending number) →
    workspace.slot? receiver = some (.half .receiving second) →
    ∃ step, workspace.step name (.reunite sender receiver) = some step ∧
      (step.reply = .reunited ↔ origins sender = origins receiver) ∧
      (origins sender = origins receiver →
        ∃ pipe, Rejoined workspace name sender receiver number pipe step) ∧
      (origins sender ≠ origins receiver → Refused workspace sender receiver step)

theorem empty_traced : empty.Traced .none 0 [] :=
  ⟨rfl, List.nodup_nil, nofun, nofun⟩

theorem run_paired {commands : List (String × Command)} {steps : List Step}
    (ran : empty.run commands = some steps) :
    Paired (empty.lastOf steps) (Origins.none.after 0 commands steps) := by
  have consistent := empty_consistent.run ran
  obtain ⟨place, births, traced⟩ := empty_traced.run empty_consistent ran
  generalize empty.lastOf steps = workspace, Origins.none.after 0 commands steps = origins at *
  constructor
  case known =>
    intro name side number there
    obtain ⟨birth, -, known⟩ := traced.born name side number there
    rw [known, Option.isSome_some]
  case only =>
    intro name other side number second here there same
    cases (traced.number_eq_iff here there).mpr same
    exact consistent.unique here there
  case reunite =>
    intro name sender receiver number second sending receiving
    have origin := traced.number_eq_iff sending receiving
    refine ⟨_, step_reunite sending receiving, ?_⟩
    by_cases same : number = second
    next =>
      subst same
      obtain ⟨pipe, rejoined⟩ := consistent.rejoined name sending receiving
      exact ⟨by simpa [rejoined.reply_eq] using origin.mp rfl, fun _ => ⟨pipe, rejoined⟩,
        fun foreign => absurd (origin.mp rfl) foreign⟩
    next =>
      have refused := consistent.refused name sending receiving same
      have foreign := mt origin.mpr same
      exact ⟨by simpa [refused.reply_eq] using foreign, fun own => absurd own foreign,
        fun _ => refused⟩

-- A pipe and its copy are split, and the first pipe again once it is back.
def regrouping : List (String × Command) :=
  [("a", .create 4), ("a", .ask (.write [1, 2])), ("a", .clone "b"), ("a", .split "w" "r"),
    ("b", .split "x" "y"), ("a", .reunite "w" "y"), ("a", .reunite "w" "r"), ("a", .split "w" "r"),
    ("y", .ask (.read 1)), ("a", .reunite "x" "r"), ("a", .reunite "w" "r"), ("y", .ask (.read 4))]

theorem run_regrouping : ∃ steps,
    empty.run regrouping = some steps ∧
    steps.map (·.reply) =
      [.done, .count 2, .done, .done, .done, .foreignHalves, .reunited, .done, .bytes [1],
        .foreignHalves, .reunited, .bytes [2]] ∧
    Paired (empty.lastOf steps) (Origins.none.after 0 regrouping steps) :=
  ⟨_, rfl, by decide, run_paired rfl⟩

end Workspace

end Conduit.Pipe
