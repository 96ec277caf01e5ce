import Conduit.Proofs.Pipe.Ended
import Conduit.Proofs.Pipe.Ownership
set_option autoImplicit false

namespace Conduit.Pipe

inductive Place
  | slot (name : String)
  | shared (number : Nat)
  deriving DecidableEq

def Slot.place (name : String) : Slot → Place
  | .whole _ => .slot name
  | .sender half => .shared half.number
  | .receiver half => .shared half.number

theorem Slot.place_half (name : String) (side : End) (number : Nat) :
    (half side number).place name = .shared number := by
  cases side <;> rfl

def undergo (pipe : Pipe) : Option Request → Pipe
  | some request => (pipe.answer .whole request).2
  | none => pipe

theorem answer_snd (pipe : Pipe) (holder : Holder) (request : Request) :
    (pipe.answer holder request).2 = (pipe.answer .whole request).2 := by
  cases request <;> rfl

theorem undergo_sound {pipe : Pipe} (sound : pipe.Sound) (asked : Option Request) :
    (pipe.undergo asked).Sound := by
  cases asked with
  | none => exact sound
  | some request => exact answer_sound sound .whole request

theorem Ebbed.undergo {before after : Pipe} (ebbed : Ebbed before after) (asked : Option Request) :
    Ebbed before (after.undergo asked) := by
  cases asked with
  | none => exact ebbed
  | some request => exact ebbed.answer .whole request

namespace Workspace

variable {workspace : Workspace} {name other : String} {place : Place} {pipe after : Pipe} {slot : Slot}
  {number : Nat}

def pipeAt? (workspace : Workspace) : Place → Option Pipe
  | .slot name =>
      match workspace.slot? name with
      | some (.whole pipe) => some pipe
      | _ => none
  | .shared number => workspace.halves.pipe? number

def source (workspace : Workspace) (name : String) : Command → Reply → Place → Option Place
  | .create _, .done => Function.update some (.slot name) none
  | .clone target, _ => Function.update some (.slot target) (some (.slot name))
  | .split _ _, _ => Function.update some (.shared workspace.halves.fresh) (some (.slot name))
  | .reunite sender _, .reunited =>
      Function.update some (.slot name) ((workspace.slot? sender).map (·.place sender))
  | _, _ => some

def farewell (workspace : Workspace) (name : String) : List (Place × Request) :=
  match workspace.slot? name with
  | some (.sender sender) => [(.shared sender.number, .finish)]
  | _ => []

def asks (workspace : Workspace) (name : String) : Command → Reply → List (Place × Request)
  | .create _, .done | .drop, _ => workspace.farewell name
  | .clone target, _ => workspace.farewell target
  | .split sender receiver, _ =>
      (workspace.forget name).farewell sender ++
        if receiver = sender then [(.slot name, .finish)]
        else (workspace.forget name).farewell receiver
  | .reunite sender receiver, .reunited =>
      ((workspace.forget sender).forget receiver).farewell name
  | .ask request, _ => ((workspace.slot? name).map fun slot => (slot.place name, request)).toList
  | _, _ => []

def report (workspace : Workspace) (asked : Place × Request) : List Event :=
  (workspace.pipeAt? asked.1).elim [] (·.events asked.2)

theorem pipeAt?_whole (there : workspace.slot? name = some (.whole pipe)) :
    workspace.pipeAt? (.slot name) = some pipe := by
  simp [pipeAt?, there]

theorem pipeAt?_slot_eq_some :
    workspace.pipeAt? (.slot name) = some pipe ↔ workspace.slot? name = some (.whole pipe) := by
  rw [pipeAt?]
  split
  next there => simp [there]
  next other => simpa using other pipe

theorem pipeAt?_shared_eq_some :
    workspace.pipeAt? (.shared number) = some pipe ↔
      ∃ holders, workspace.halves.find? number = some ⟨pipe, holders⟩ := by
  simp only [pipeAt?, Halves.pipe?, Option.map_eq_some_iff]
  constructor
  next =>
    rintro ⟨⟨pipe, holders⟩, found, rfl⟩
    exact ⟨holders, found⟩
  next =>
    rintro ⟨holders, found⟩
    exact ⟨_, found, rfl⟩

theorem pipeAt?_place {holder : Holder} (there : workspace.slot? name = some slot)
    (behind : workspace.pipe? slot = some (holder, pipe)) :
    workspace.pipeAt? (slot.place name) = some pipe := by
  cases slot with
  | whole before =>
    cases behind
    exact pipeAt?_whole there
  | sender sender | receiver receiver =>
    obtain ⟨_, found, same⟩ := Option.map_eq_some_iff.mp behind
    cases same
    exact found

theorem pipeAt?_forget :
    (workspace.forget name).pipeAt? place =
      if place = .slot name then none else workspace.pipeAt? place := by
  cases place with
  | slot other =>
    by_cases here : other = name <;> simp [pipeAt?, here]
  | shared number => rfl

theorem pipeAt?_setPipe (there : workspace.slot? name = some slot) (pipe : Pipe) :
    (workspace.setPipe name slot pipe).pipeAt? place =
      if place = slot.place name then (workspace.pipeAt? place).map fun _ => pipe
      else workspace.pipeAt? place := by
  cases slot with
  | whole before =>
    cases place with
    | slot other =>
      by_cases here : other = name
      next =>
        subst here
        simp [pipeAt?, slot?_setPipe_whole, there, Slot.place]
      next => simp [pipeAt?, slot?_setPipe_whole, here, Slot.place]
    | shared number => rfl
  | sender half | receiver half =>
    cases place with
    | slot other => rfl
    | shared number =>
      show (Halves.setPipe workspace.halves half.number pipe).pipe? number = _
      by_cases here : number = half.number
      next =>
        subst here
        simp [Halves.pipe?, Halves.setPipe, Halves.find?_update, Slot.place, pipeAt?, Option.map_map]
        rfl
      next => simp [Halves.pipe?, Halves.setPipe, Halves.find?_update, Slot.place, pipeAt?, here]

theorem mem_farewell {asked : Place × Request} :
    asked ∈ workspace.farewell name ↔
      ∃ number, workspace.slot? name = some (.half .sending number) ∧
        asked = (.shared number, .finish) := by
  unfold farewell
  split
  next sender there =>
    rw [there, Slot.sender_eq_half]
    simp [Slot.half_inj, eq_comm]
  next other =>
    constructor
    next => simp
    next =>
      rintro ⟨number, there, -⟩
      exact absurd there (other ⟨number⟩)

theorem lookup_farewell_eq_some {request : Request} :
    (workspace.farewell name).lookup place = some request ↔
      (place, request) ∈ workspace.farewell name := by
  unfold farewell
  split
  next sender there =>
    by_cases here : place = .shared sender.number
    next => simp [here, eq_comm]
    next => simp [here, List.lookup_cons, beq_eq_false_iff_ne.2 here]
  next => simp

theorem lookup_farewell_eq_none
    (other : ∀ number, place = .shared number → workspace.slot? name ≠ some (.half .sending number)) :
    (workspace.farewell name).lookup place = none := by
  rw [Option.eq_none_iff_forall_ne_some]
  intro request found
  obtain ⟨number, there, same⟩ := mem_farewell.mp (lookup_farewell_eq_some.mp found)
  exact other number (congrArg Prod.fst same) there

theorem farewell_congr {after : Workspace} (same : after.slot? name = workspace.slot? name) :
    after.farewell name = workspace.farewell name := by
  rw [farewell, farewell, same]

theorem farewell_of_half {side : End} (there : workspace.slot? name = some (.half side number)) :
    workspace.farewell name = if side = .sending then [(.shared number, .finish)] else [] := by
  cases side <;> simp [farewell, there, Slot.half]

theorem fst_drop (workspace : Workspace) (name : String) :
    (workspace.drop name).1 = (workspace.farewell name).flatMap workspace.report := by
  by_cases sending : ∃ sender, workspace.slot? name = some (.sender sender)
  next =>
    obtain ⟨sender, there⟩ := sending
    cases found : workspace.halves.pipe? sender.number <;>
      simp [drop, farewell, there, Halves.dropSender, report, pipeAt?, forget, found, events]
  next =>
    have other (sender : Sender) : workspace.slot? name ≠ some (.sender sender) :=
      fun there => sending ⟨sender, there⟩
    have none : workspace.farewell name = [] := by
      rw [List.eq_nil_iff_forall_not_mem]
      intro asked among
      obtain ⟨number, there, -⟩ := mem_farewell.mp among
      exact other ⟨number⟩ there
    rw [fst_drop_of_other other, none, List.flatMap_nil]

theorem flatMap_report_congr {later : Workspace} {asked : List (Place × Request)}
    (same : ∀ ask ∈ asked, later.pipeAt? ask.1 = workspace.pipeAt? ask.1) :
    asked.flatMap later.report = asked.flatMap workspace.report := by
  rw [List.flatMap_def, List.flatMap_def]
  refine congrArg List.flatten (List.map_congr_left fun ask among => ?_)
  rw [report, report, same ask among]

theorem pipeAt?_of_drop (there : (workspace.drop name).2.pipeAt? place = some pipe) :
    place ≠ .slot name ∧ ∃ before, workspace.pipeAt? place = some before ∧
      pipe = before.undergo ((workspace.farewell name).lookup place) := by
  cases place with
  | slot other =>
    rw [pipeAt?_slot_eq_some, slot?_drop] at there
    split at there
    next => cases there
    next apart =>
      refine ⟨by simpa using apart, pipe, pipeAt?_whole there, ?_⟩
      rw [lookup_farewell_eq_none (by simp)]
      rfl
  | shared number =>
    refine ⟨nofun, ?_⟩
    obtain ⟨holders, found⟩ := pipeAt?_shared_eq_some.mp there
    by_cases own : ∃ side, workspace.slot? name = some (.half side number)
    next =>
      obtain ⟨side, held⟩ := own
      rw [find?_drop_of_half held, Option.bind_eq_some_iff] at found
      obtain ⟨shared, before, left⟩ := found
      refine ⟨shared.pipe, pipeAt?_shared_eq_some.mpr ⟨_, before⟩, ?_⟩
      have same := Halves.pipe_of_less left
      rw [farewell_of_half held]
      cases side with
      | sending => simpa [undergo, answer] using same
      | receiving => exact same
    next =>
      have elsewhere : ∀ side, workspace.slot? name ≠ some (.half side number) :=
        fun side held => own ⟨side, held⟩
      rw [find?_drop_of_other elsewhere] at found
      refine ⟨pipe, pipeAt?_shared_eq_some.mpr ⟨holders, found⟩, ?_⟩
      rw [lookup_farewell_eq_none (by rintro _ ⟨⟩; exact elsewhere .sending)]
      rfl

theorem pipeAt?_of_put (there : (workspace.put name slot).2.pipeAt? place = some pipe) :
    place = .slot name ∧ slot = .whole pipe ∨
      place ≠ .slot name ∧ (workspace.drop name).2.pipeAt? place = some pipe := by
  cases place with
  | slot other =>
    rw [pipeAt?_slot_eq_some, slot?_put] at there
    by_cases here : other = name
    next => exact .inl ⟨by rw [here], by simpa [here] using there⟩
    next =>
      refine .inr ⟨by simpa using here, ?_⟩
      rw [pipeAt?_slot_eq_some, slot?_drop]
      simpa [here] using there
  | shared number => exact .inr ⟨nofun, there⟩

theorem slot?_of_forget (there : (workspace.forget other).slot? name = some slot) :
    workspace.slot? name = some slot := by
  rw [slot?_forget] at there
  split at there
  next => cases there
  next => exact there

theorem mem_farewell_of_forget {asked : Place × Request}
    (among : asked ∈ (workspace.forget other).farewell name) : asked ∈ workspace.farewell name := by
  obtain ⟨number, there, rfl⟩ := mem_farewell.mp among
  exact mem_farewell.mpr ⟨number, slot?_of_forget there, rfl⟩

theorem pipeAt?_drop_shared {holders : Nat}
    (found : workspace.halves.find? number = some ⟨pipe, holders⟩)
    (several : ∀ side, workspace.slot? name = some (.half side number) → 1 < holders) :
    (workspace.drop name).2.pipeAt? (.shared number) =
      some (pipe.undergo ((workspace.farewell name).lookup (.shared number))) := by
  by_cases own : ∃ side, workspace.slot? name = some (.half side number)
  next =>
    obtain ⟨side, there⟩ := own
    have more := several side there
    rw [pipeAt?_shared_eq_some, find?_drop_of_half there, found, farewell_of_half there,
      Option.bind_some, Halves.less]
    refine ⟨holders - 1, ?_⟩
    cases side <;> simp [undergo, answer, Nat.not_le_of_gt more]
  next =>
    have elsewhere (side : End) : workspace.slot? name ≠ some (.half side number) :=
      fun there => own ⟨side, there⟩
    rw [pipeAt?_shared_eq_some, find?_drop_of_other elsewhere, found,
      lookup_farewell_eq_none (by rintro _ ⟨⟩; exact elsewhere .sending)]
    exact ⟨holders, rfl⟩

theorem nodup_farewell (workspace : Workspace) (name : String) :
    ((workspace.farewell name).map Prod.fst).Nodup := by
  unfold farewell
  split <;> simp

theorem Consistent.farewell_known (consistent : workspace.Consistent) {asked : Place × Request}
    (among : asked ∈ workspace.farewell name) : ∃ pipe, workspace.pipeAt? asked.1 = some pipe := by
  obtain ⟨number, there, rfl⟩ := mem_farewell.mp among
  obtain ⟨shared, found⟩ := consistent.find?_isSome there
  exact ⟨shared.pipe, pipeAt?_shared_eq_some.mpr ⟨_, found⟩⟩

/-- A step carries every pipe on that it does not make: what it asks of a pipe is all that happens to it, and
all that is reported. -/
structure Continues (workspace : Workspace) (name : String) (command : Command) (step : Step) :
    Prop where
  onward : ∀ place pipe, step.after.pipeAt? place = some pipe →
    match workspace.source name command step.reply place with
    | none => ∃ capacity, pipe = Pipe.empty capacity
    | some origin => ∃ before, workspace.pipeAt? origin = some before ∧
        pipe = before.undergo ((workspace.asks name command step.reply).lookup origin)
  events_eq : step.events = (workspace.asks name command step.reply).flatMap workspace.report
  known : ∀ asked ∈ workspace.asks name command step.reply,
    ∃ pipe, workspace.pipeAt? asked.1 = some pipe
  once : ((workspace.asks name command step.reply).map Prod.fst).Nodup

theorem pipeAt?_of_put_whole
    (there : (workspace.put name (.whole pipe)).2.pipeAt? place = some after) :
    place = .slot name ∧ after = pipe ∨
      place ≠ .slot name ∧ ∃ before, workspace.pipeAt? place = some before ∧
        after = before.undergo ((workspace.farewell name).lookup place) := by
  rcases pipeAt?_of_put there with ⟨here, same⟩ | ⟨apart, dropped⟩
  next =>
    subst here
    rw [pipeAt?_slot_eq_some, slot?_put, if_pos rfl] at there
    cases there
    exact .inl ⟨rfl, rfl⟩
  next => exact .inr ⟨apart, (pipeAt?_of_drop dropped).2⟩

theorem unasked_continues {command : Command} {reply : Reply}
    (source : workspace.source name command reply = some)
    (asks : workspace.asks name command reply = []) :
    Continues workspace name command ⟨reply, [], workspace⟩ := by
  constructor
  case onward =>
    intro place pipe there
    simp only [source, asks]
    exact ⟨pipe, there, rfl⟩
  case events_eq => simp [asks]
  case known => simp [asks]
  case once => simp [asks]

theorem ask_continues {holder : Holder} (request : Request)
    (there : workspace.slot? name = some slot)
    (behind : workspace.pipe? slot = some (holder, pipe)) :
    Continues workspace name (.ask request)
      ⟨(pipe.answer holder request).1, pipe.events request,
        workspace.setPipe name slot (pipe.answer holder request).2⟩ := by
  have asked : workspace.asks name (.ask request) (pipe.answer holder request).1 =
      [(slot.place name, request)] := by
    simp [asks, there]
  have found := pipeAt?_place there behind
  constructor
  case onward =>
    intro place after reached
    rw [asked]
    rw [pipeAt?_setPipe there] at reached
    split at reached
    next here =>
      subst here
      rw [found] at reached
      cases reached
      exact ⟨pipe, found, by simp [undergo, answer_snd pipe holder]⟩
    next apart =>
      refine ⟨after, reached, ?_⟩
      rw [List.lookup_cons, beq_eq_false_iff_ne.2 apart]
      rfl
  case events_eq => simp [asked, report, found]
  case known => simpa [asked] using ⟨pipe, found⟩
  case once => simp [asked]

def halfway (workspace : Workspace) (name : String) (pipe : Pipe) (sender : String) : Workspace :=
  ((workspace.divided name pipe).put sender (.half .sending workspace.halves.fresh)).2

theorem pipeAt?_divided (workspace : Workspace) (name : String) (pipe : Pipe) (place : Place) :
    (workspace.divided name pipe).pipeAt? place =
      if place = .shared workspace.halves.fresh then some pipe
      else (workspace.forget name).pipeAt? place := by
  cases place with
  | slot other => rfl
  | shared number =>
    by_cases here : number = workspace.halves.fresh
    next => simp [here, pipeAt?, divided, Halves.split, Halves.pipe?, Halves.find?]
    next =>
      simp [here, pipeAt?, divided, Halves.split, Halves.pipe?, Halves.find?, List.lookup_cons,
        beq_eq_false_iff_ne.2 here, forget]

theorem farewell_halfway (workspace : Workspace) (name : String) (pipe : Pipe)
    (sender receiver : String) :
    (workspace.halfway name pipe sender).farewell receiver =
      if receiver = sender then [(.shared workspace.halves.fresh, .finish)]
      else (workspace.forget name).farewell receiver := by
  have slot : (workspace.halfway name pipe sender).slot? receiver =
      if receiver = sender then some (.half .sending workspace.halves.fresh)
      else (workspace.forget name).slot? receiver := slot?_put
  split
  next here =>
    rw [if_pos here] at slot
    exact farewell_of_half slot
  next apart =>
    rw [if_neg apart] at slot
    exact farewell_congr slot

theorem pipeAt?_of_split {sender receiver : String}
    (reached : (workspace.split name pipe sender receiver).after.pipeAt? place = some after) :
    ∃ before, (workspace.divided name pipe).pipeAt? place = some before ∧
      after = (before.undergo (((workspace.forget name).farewell sender).lookup place)).undergo
        (List.lookup place
          (if receiver = sender then [(.shared workspace.halves.fresh, .finish)]
          else (workspace.forget name).farewell receiver)) := by
  -- A half that is put into a slot is no pipe there, so only what it drops matters.
  have put_half {workspace : Workspace} {name : String} {side : End} {number : Nat} {pipe : Pipe}
      (there : (workspace.put name (.half side number)).2.pipeAt? place = some pipe) :
      ∃ before, workspace.pipeAt? place = some before ∧
        pipe = before.undergo ((workspace.farewell name).lookup place) := by
    rcases pipeAt?_of_put there with ⟨-, same⟩ | ⟨-, dropped⟩
    next => simp at same
    next => exact (pipeAt?_of_drop dropped).2
  rw [after_split] at reached
  obtain ⟨middle, left, rfl⟩ := put_half reached
  obtain ⟨before, found, rfl⟩ := put_half left
  rw [← farewell_halfway]
  exact ⟨before, found, rfl⟩

namespace Consistent

variable (consistent : workspace.Consistent)

include consistent

theorem create_continues (name : String) (capacity : Nat) :
    Continues workspace name (.create capacity) (workspace.create name capacity) := by
  unfold create
  split
  next pipe made =>
    obtain ⟨-, rfl⟩ := create_eq_ok_iff.mp made
    constructor
    case onward =>
      intro place after there
      rcases pipeAt?_of_put_whole there with ⟨rfl, rfl⟩ | ⟨apart, before, found, same⟩
      next => simp [source]
      next =>
        simp only [source, Function.update_of_ne apart]
        exact ⟨before, found, same⟩
    case events_eq => exact fst_drop workspace name
    case known => exact fun asked among => consistent.farewell_known among
    case once => exact nodup_farewell workspace name
  next misuse refused => exact unasked_continues rfl rfl

theorem drop_continues (name : String) :
    Continues workspace name .drop
      ⟨.done, (workspace.drop name).1, (workspace.drop name).2⟩ := by
  constructor
  case onward => exact fun place pipe there => (pipeAt?_of_drop there).2
  case events_eq => exact fst_drop workspace name
  case known => exact fun asked among => consistent.farewell_known among
  case once => exact nodup_farewell workspace name

theorem clone_continues (there : workspace.slot? name = some (.whole pipe)) (target : String) :
    Continues workspace name (.clone target)
      ⟨.done, (workspace.put target (.whole pipe)).1, (workspace.put target (.whole pipe)).2⟩ := by
  constructor
  case onward =>
    intro place after found
    rcases pipeAt?_of_put_whole found with ⟨rfl, rfl⟩ | ⟨apart, before, found, same⟩
    next =>
      simp only [source, Function.update_self]
      refine ⟨after, pipeAt?_whole there, ?_⟩
      rw [asks, lookup_farewell_eq_none (by simp)]
      rfl
    next =>
      simp only [source, Function.update_of_ne apart]
      exact ⟨before, found, same⟩
  case events_eq => exact fst_drop workspace target
  case known => exact fun asked among => consistent.farewell_known among
  case once => exact nodup_farewell workspace target

theorem reunite_continues {sender receiver : String}
    (sending : workspace.slot? sender = some (.half .sending number))
    (receiving : workspace.slot? receiver = some (.half .receiving number)) (name : String) :
    Continues workspace name (.reunite sender receiver)
      (workspace.reunite name ⟨number⟩ ⟨number⟩ sender receiver) := by
  obtain ⟨pipe, two⟩ := consistent.find?_of_both sending receiving
  have reunited := reunite_of_two two name sender receiver
  have joined := consistent.joined sending receiving
  have came (place : Place) (after : Pipe)
      (there : (workspace.joined sender receiver number).pipeAt? place = some after) :
      place ≠ .shared number ∧ workspace.pipeAt? place = some after := by
    cases place with
    | slot other => exact ⟨nofun, pipeAt?_whole (slot?_of_joined (pipeAt?_slot_eq_some.mp there))⟩
    | shared other =>
      obtain ⟨holders, found⟩ := pipeAt?_shared_eq_some.mp there
      rw [find?_joined] at found
      split at found
      next => cases found
      next apart => exact ⟨by simpa using apart, pipeAt?_shared_eq_some.mpr ⟨holders, found⟩⟩
  have asked : workspace.asks name (.reunite sender receiver) .reunited =
      (workspace.joined sender receiver number).farewell name := rfl
  rw [reunited]
  constructor
  case onward =>
    intro place after there
    rw [asked]
    rcases pipeAt?_of_put_whole there with ⟨rfl, rfl⟩ | ⟨apart, before, found, same⟩
    next =>
      have origin : workspace.source name (.reunite sender receiver) .reunited (.slot name) =
          some (.shared number) := by
        simp [source, sending, Slot.place_half]
      simp only [origin]
      refine ⟨after, pipeAt?_shared_eq_some.mpr ⟨2, two⟩, ?_⟩
      -- No half of the joined pipe is left for the slot to drop.
      rw [lookup_farewell_eq_none]
      next => rfl
      next =>
        rintro other ⟨⟩ held
        exact consistent.number_ne_of_joined sending receiving held rfl
    next =>
      simp only [source, Function.update_of_ne apart]
      exact ⟨before, (came place before found).2, same⟩
  case events_eq =>
    rw [asked]
    refine (fst_drop _ name).trans (flatMap_report_congr fun asked among => ?_)
    obtain ⟨before, found⟩ := joined.farewell_known among
    rw [found, (came _ _ found).2]
  case known =>
    intro asked among
    obtain ⟨before, found⟩ := joined.farewell_known among
    exact ⟨before, (came _ _ found).2⟩
  case once => exact nodup_farewell _ name

theorem farewell_apart {sender receiver : String} (apart : sender ≠ receiver)
    {first second : Place × Request} (one : first ∈ workspace.farewell sender)
    (two : second ∈ workspace.farewell receiver) : first.1 ≠ second.1 := by
  obtain ⟨number, there, rfl⟩ := mem_farewell.mp one
  obtain ⟨other, held, rfl⟩ := mem_farewell.mp two
  rintro ⟨⟩
  exact apart (consistent.unique there held)

theorem lookup_farewell_fresh (forgotten name : String) :
    ((workspace.forget forgotten).farewell name).lookup (.shared workspace.halves.fresh) = none := by
  apply lookup_farewell_eq_none
  rintro _ ⟨⟩ there
  exact Nat.lt_irrefl _ (consistent.lt_fresh (slot?_of_forget there))

theorem split_onward (there : workspace.slot? name = some (.whole pipe)) {sender receiver : String}
    (reached : (workspace.split name pipe sender receiver).after.pipeAt? place = some after) :
    ∃ origin before,
      workspace.source name (.split sender receiver) .done place = some origin ∧
      workspace.pipeAt? origin = some before ∧
      after = before.undergo ((workspace.asks name (.split sender receiver) .done).lookup origin) := by
  obtain ⟨base, found, same⟩ := pipeAt?_of_split reached
  rw [pipeAt?_divided] at found
  simp only [asks, List.lookup_append]
  split at found
  next new =>
    subst new
    cases found
    have slot_unasked (other : String) :
        ((workspace.forget name).farewell other).lookup (.slot name) = none :=
      lookup_farewell_eq_none (by simp)
    refine ⟨.slot name, pipe, by simp [source], pipeAt?_whole there, ?_⟩
    rw [same, consistent.lookup_farewell_fresh, slot_unasked]
    by_cases dropped : receiver = sender
    next => simp [dropped, undergo]
    next =>
      rw [if_neg dropped, if_neg dropped, consistent.lookup_farewell_fresh, slot_unasked]
      rfl
  next old =>
    rw [pipeAt?_forget] at found
    split at found
    next => cases found
    next elsewhere =>
      refine ⟨place, base, by simp [source, old], found, ?_⟩
      by_cases dropped : receiver = sender
      next =>
        rw [same, if_pos dropped, if_pos dropped, List.lookup_cons, List.lookup_cons,
          beq_eq_false_iff_ne.2 old, beq_eq_false_iff_ne.2 elsewhere]
        simp [undergo]
      next =>
        rw [same, if_neg dropped, if_neg dropped]
        cases first : ((workspace.forget name).farewell sender).lookup place with
        | none => rfl
        | some request =>
          -- Only one slot has the sender of this pipe.
          have none : ((workspace.forget name).farewell receiver).lookup place = none := by
            rw [Option.eq_none_iff_forall_ne_some]
            intro later second
            exact consistent.farewell_apart (Ne.symm dropped)
              (mem_farewell_of_forget (lookup_farewell_eq_some.mp first))
              (mem_farewell_of_forget (lookup_farewell_eq_some.mp second)) rfl
          rw [none]
          rfl

theorem find?_divided_of_held {side : End} (pipe : Pipe)
    (there : (workspace.forget other).slot? name = some (.half side number)) :
    (workspace.divided other pipe).halves.find? number = workspace.halves.find? number := by
  have old := Nat.ne_of_lt (consistent.lt_fresh (slot?_of_forget there))
  simp [divided, Halves.split, Halves.find?, List.lookup_cons, beq_eq_false_iff_ne.2 old]

theorem pipeAt?_halfway_fresh (name : String) (pipe : Pipe) (sender : String) :
    (workspace.halfway name pipe sender).pipeAt? (.shared workspace.halves.fresh) = some pipe := by
  have new : (workspace.divided name pipe).halves.find? workspace.halves.fresh = some ⟨pipe, 2⟩ := by
    simp [divided, Halves.split, Halves.find?]
  have unasked : ((workspace.divided name pipe).farewell sender).lookup
      (.shared workspace.halves.fresh) = none := consistent.lookup_farewell_fresh name sender
  refine (pipeAt?_drop_shared new fun _ _ => Nat.one_lt_two).trans ?_
  rw [unasked]
  rfl

theorem pipeAt?_halfway_held (pipe : Pipe) {sender receiver : String} (apart : receiver ≠ sender)
    (there : (workspace.forget name).slot? receiver = some (.half .sending number)) :
    (workspace.halfway name pipe sender).pipeAt? (.shared number) =
      workspace.pipeAt? (.shared number) := by
  have held := slot?_of_forget there
  obtain ⟨⟨before, holders⟩, found⟩ := consistent.find?_isSome held
  have kept := (consistent.find?_divided_of_held pipe there).trans found
  have own (side : End)
      (other : (workspace.divided name pipe).slot? sender = some (.half side number)) :
      workspace.slot? sender = some (.half side number) :=
    slot?_of_forget (show (workspace.forget name).slot? sender = _ from other)
  have unasked : ((workspace.divided name pipe).farewell sender).lookup (.shared number) = none := by
    apply lookup_farewell_eq_none
    rintro _ ⟨⟩ other
    exact apart (consistent.unique held (own .sending other))
  refine (pipeAt?_drop_shared kept ?_).trans ?_
  next =>
    intro side other
    cases side with
    | sending => exact absurd (consistent.unique held (own .sending other)) apart
    | receiving =>
      obtain ⟨both, two⟩ := consistent.find?_of_both held (own .receiving other)
      cases found.symm.trans two
      exact Nat.one_lt_two
  next =>
    rw [unasked, pipeAt?_shared_eq_some.mpr ⟨holders, found⟩]
    rfl

theorem split_events (there : workspace.slot? name = some (.whole pipe))
    (sender receiver : String) :
    (workspace.split name pipe sender receiver).events =
      (workspace.asks name (.split sender receiver) .done).flatMap workspace.report := by
  have parts : (workspace.split name pipe sender receiver).events =
      ((workspace.divided name pipe).drop sender).1 ++
        ((workspace.halfway name pipe sender).drop receiver).1 := rfl
  rw [parts, fst_drop, fst_drop, farewell_halfway]
  simp only [asks, List.flatMap_append]
  congr 1
  next =>
    refine flatMap_report_congr fun asked among => ?_
    obtain ⟨number, held, rfl⟩ := mem_farewell.mp among
    simp only [pipeAt?, Halves.pipe?, consistent.find?_divided_of_held pipe held]
  by_cases dropped : receiver = sender
  next =>
    simp [dropped, report, consistent.pipeAt?_halfway_fresh, pipeAt?_whole there]
  next =>
    rw [if_neg dropped, if_neg dropped]
    refine flatMap_report_congr fun asked among => ?_
    obtain ⟨number, held, rfl⟩ := mem_farewell.mp among
    exact consistent.pipeAt?_halfway_held pipe dropped held

theorem split_continues (there : workspace.slot? name = some (.whole pipe))
    (sender receiver : String) :
    Continues workspace name (.split sender receiver)
      (workspace.split name pipe sender receiver) := by
  constructor
  case onward =>
    intro place after reached
    obtain ⟨origin, before, source, found, same⟩ := consistent.split_onward there reached
    show match workspace.source name (.split sender receiver) .done place with
      | none => ∃ capacity, after = Pipe.empty capacity
      | some origin => ∃ before, workspace.pipeAt? origin = some before ∧
          after = before.undergo ((workspace.asks name (.split sender receiver) .done).lookup origin)
    rw [source]
    exact ⟨before, found, same⟩
  case events_eq => exact consistent.split_events there sender receiver
  case known =>
    intro asked among
    rcases List.mem_append.mp among with first | second
    next => exact consistent.farewell_known (mem_farewell_of_forget first)
    split at second
    next =>
      cases List.mem_singleton.mp second
      exact ⟨pipe, pipeAt?_whole there⟩
    next => exact consistent.farewell_known (mem_farewell_of_forget second)
  case once =>
    show (((workspace.forget name).farewell sender ++ _).map Prod.fst).Nodup
    rw [List.map_append, List.nodup_append]
    refine ⟨nodup_farewell _ _, ?_, ?_⟩
    next =>
      split
      next => simp
      next => exact nodup_farewell _ _
    next =>
      intro place one other two same
      obtain ⟨first, among, rfl⟩ := List.mem_map.mp one
      obtain ⟨second, among', rfl⟩ := List.mem_map.mp two
      split at among'
      next =>
        cases List.mem_singleton.mp among'
        obtain ⟨number, -, rfl⟩ := mem_farewell.mp among
        cases same
      next apart =>
        exact consistent.farewell_apart (Ne.symm apart) (mem_farewell_of_forget among)
          (mem_farewell_of_forget among') same

theorem step_continues {command : Command} {step : Step}
    (stepped : workspace.step name command = some step) :
    Continues workspace name command step := by
  cases step_cases stepped with
  | created capacity | misused capacity =>
    have created : workspace.create name capacity = _ := Option.some.inj stepped
    exact created ▸ consistent.create_continues name capacity
  | dropped => exact consistent.drop_continues name
  | cloned target pipe there => exact consistent.clone_continues there target
  | split pipe sender receiver there => exact consistent.split_continues there sender receiver
  | asked request slot holder pipe there behind => exact ask_continues request there behind
  | reunited senderName receiverName sender receiver sending receiving =>
    by_cases own : sender.number = receiver.number
    next =>
      obtain ⟨number⟩ := sender
      obtain ⟨_⟩ := receiver
      cases own
      exact consistent.reunite_continues sending receiving name
    next =>
      rw [reunite_of_foreign own]
      exact unasked_continues rfl rfl

end Consistent

end Workspace

end Conduit.Pipe
