import Conduit.Proofs.Pipe.Descent
set_option autoImplicit false

namespace Conduit.Pipe.Workspace

variable {workspace : Workspace} {name : String} {slot : Slot} {holder : Holder} {pipe : Pipe}

def ending (workspace : Workspace) (asked : Place × Request) : List Event :=
  match workspace.pipeAt? asked.1 with
  | some pipe =>
      if pipe.ended = false ∧ (pipe.undergo asked.2).ended = true then
        [.inputEnded pipe.size pipe.totalIn]
      else []
  | none => []

theorem filter_isEnd_report (workspace : Workspace) (asked : Place × Request) :
    (workspace.report asked).filter Event.isEnd = workspace.ending asked := by
  unfold report ending
  cases workspace.pipeAt? asked.1 with
  | none => rfl
  | some pipe => exact filter_isEnd_events pipe asked.2

theorem ending_of_ended {asked : Place × Request} (there : workspace.pipeAt? asked.1 = some pipe)
    (ended : pipe.ended = true) : workspace.ending asked = [] := by
  simp [ending, there, ended]

structure Reported (workspace : Workspace) (name : String) (command : Command) (step : Step) :
    Prop where
  ends_eq : step.events.filter Event.isEnd =
    (workspace.asks name command step.reply).flatMap workspace.ending
  once : ((workspace.asks name command step.reply).map Prod.fst).Nodup
  created : ∀ place pipe, step.after.pipeAt? place = some pipe →
    workspace.source name command step.reply place = none → pipe.ended = false
  turned : ∀ place pipe source before, step.after.pipeAt? place = some pipe →
    workspace.source name command step.reply place = some source →
    workspace.pipeAt? source = some before → before.ended = false → pipe.ended = true →
    .inputEnded before.size before.totalIn ∈ step.events

theorem Continues.reported {command : Command} {step : Step}
    (continues : Continues workspace name command step) : Reported workspace name command step := by
  constructor
  case ends_eq =>
    rw [continues.events_eq, List.filter_flatMap]
    simp only [filter_isEnd_report]
  case once => exact continues.once
  case created =>
    intro place pipe there made
    have onward := continues.onward place pipe there
    rw [made] at onward
    obtain ⟨capacity, rfl⟩ := onward
    rfl
  case turned =>
    intro place pipe source before there from_source found going ended
    have onward := continues.onward place pipe there
    rw [from_source] at onward
    obtain ⟨same, found', rfl⟩ := onward
    cases found.symm.trans found'
    -- A pipe that nothing is asked of goes on as it is.
    cases asked : (workspace.asks name command step.reply).lookup source with
    | none => simp [asked, undergo, going] at ended
    | some request =>
      rw [asked] at ended
      rw [continues.events_eq, List.mem_flatMap]
      have report : workspace.ending (source, request) =
          [.inputEnded before.size before.totalIn] := by simp [ending, found, going, ended]
      rw [← filter_isEnd_report] at report
      obtain ⟨_, _, split, -⟩ := List.lookup_eq_some_iff.mp asked
      refine ⟨(source, request), by simp [split], ?_⟩
      exact (List.mem_filter.mp (report ▸ List.mem_singleton_self _)).1

def origin : Workspace → List (String × Command) → List Step → Place → Option Place
  | workspace, (name, command) :: commands, step :: steps, place =>
      (step.after.origin commands steps place).bind (workspace.source name command step.reply)
  | _, _, _, place => some place

def AllSound (workspace : Workspace) : Prop :=
  ∀ place pipe, workspace.pipeAt? place = some pipe → pipe.Sound

theorem Continues.allSound {command : Command} {step : Step}
    (continues : Continues workspace name command step) (sound : workspace.AllSound) :
    step.after.AllSound := by
  intro place pipe there
  have onward := continues.onward place pipe there
  split at onward
  next =>
    obtain ⟨capacity, rfl⟩ := onward
    exact empty_sound capacity
  next =>
    obtain ⟨before, found, rfl⟩ := onward
    exact undergo_sound (sound _ before found) _

theorem empty_allSound : empty.AllSound := by
  rintro (name | number) pipe there <;> cases there

theorem AllSound.run (sound : workspace.AllSound) (consistent : workspace.Consistent)
    {commands : List (String × Command)} {steps : List Step}
    (ran : workspace.run commands = some steps) : (workspace.lastOf steps).AllSound := by
  induction commands generalizing workspace steps with
  | nil =>
    cases ran
    exact sound
  | cons command later ih =>
    obtain ⟨step, rest, stepped, followed, rfl⟩ := run_cons_iff.mp ran
    have kept := (consistent.step_continues stepped).allSound sound
    exact ih kept (consistent.step stepped) followed

theorem run_ebbed (sound : workspace.AllSound) (consistent : workspace.Consistent)
    {commands : List (String × Command)} {steps : List Step}
    (ran : workspace.run commands = some steps) {place source : Place}
    (there : (workspace.lastOf steps).pipeAt? place = some pipe)
    (came : workspace.origin commands steps place = some source) :
    ∃ before, workspace.pipeAt? source = some before ∧
      (before.ended = true → Ebbed before pipe) := by
  induction commands generalizing workspace steps source with
  | nil =>
    cases ran
    cases came
    exact ⟨pipe, there, Ebbed.refl (sound place pipe there)⟩
  | cons command later ih =>
    obtain ⟨step, rest, stepped, followed, rfl⟩ := run_cons_iff.mp ran
    have continues := consistent.step_continues stepped
    obtain ⟨middle, later, from_middle⟩ := Option.bind_eq_some_iff.mp came
    obtain ⟨between, found, since⟩ :=
      ih (continues.allSound sound) (consistent.step stepped) followed there later
    have onward := continues.onward middle between found
    rw [from_middle] at onward
    obtain ⟨before, known, rfl⟩ := onward
    refine ⟨before, known, fun ended => ?_⟩
    have first := (Ebbed.refl (sound _ before known) ended).undergo
      ((workspace.asks command.1 command.2 step.reply).lookup source)
    exact first.trans (since first.ended)

structure Unchanged (before after : Workspace) : Prop where
  slot?_eq : ∀ name, after.slot? name = before.slot? name
  find?_eq : ∀ number, after.halves.find? number = before.halves.find? number
  fresh_eq : after.halves.fresh = before.halves.fresh

theorem setPipe_unchanged (there : workspace.slot? name = some slot)
    (behind : workspace.pipe? slot = some (holder, pipe)) :
    Unchanged workspace (workspace.setPipe name slot pipe) := by
  cases slot with
  | whole before =>
    cases behind
    refine ⟨fun other => ?_, fun _ => rfl, rfl⟩
    rw [slot?_setPipe_whole]
    split
    next here => rw [here, there, Option.map_some]
    next => rfl
  | sender half | receiver half =>
    obtain ⟨_, same, whose⟩ := Option.map_eq_some_iff.mp behind
    cases whose
    obtain ⟨shared, found, rfl⟩ := Option.map_eq_some_iff.mp same
    refine ⟨fun _ => rfl, fun other => ?_, rfl⟩
    simp only [setPipe, Halves.setPipe, Halves.find?_update]
    split
    next here => rw [here, found, Option.map_some]
    next => rfl

def Refuses (workspace : Workspace) (name : String) (request : Request) (reply : Reply)
    (events : List Event) : Prop :=
  ∃ after, workspace.step name (.ask request) = some ⟨reply, events, after⟩ ∧
    Unchanged workspace after

theorem refuses_of_answer {request : Request} {reply : Reply}
    (there : workspace.slot? name = some slot)
    (behind : workspace.pipe? slot = some (holder, pipe)) (permitted : request.permitted holder = true)
    (answered : pipe.answer holder request = (reply, pipe)) :
    Refuses workspace name request reply (pipe.events request) := by
  refine ⟨workspace.setPipe name slot pipe, ?_, setPipe_unchanged there behind⟩
  simp [step, there, ask, behind, permitted, answered]

theorem refuses_write (there : workspace.slot? name = some slot)
    (behind : workspace.pipe? slot = some (holder, pipe)) (ended : pipe.ended = true) (data : Bytes)
    (permitted : (Request.write data).permitted holder = true) :
    Refuses workspace name (.write data) (.count 0) [.lateWrite data.length] := by
  have answered : pipe.answer holder (.write data) = (.count 0, pipe) := by
    rw [answer, write_of_ended ended]
  have reported : pipe.events (.write data) = [.lateWrite data.length] := if_pos ended
  exact reported ▸ refuses_of_answer there behind permitted answered

theorem refuses_tryWrite (there : workspace.slot? name = some (.whole pipe))
    (ended : pipe.ended = true) (data : Bytes) :
    Refuses workspace name (.tryWrite data) (.fault inputEndedFault) [] := by
  have answered : pipe.answer .whole (.tryWrite data) = (.fault inputEndedFault, pipe) := by
    rw [answer, tryWrite, if_pos ended]
  exact refuses_of_answer there rfl rfl answered

/-- What a run makes of the ends that it finds, and how it goes on from there. -/
structure KeepsEnds (start : Workspace) (commands : List (String × Command)) (steps : List Step) :
    Prop where
  ebbed : ∀ place pipe source, (start.lastOf steps).pipeAt? place = some pipe →
    start.origin commands steps place = some source →
    ∃ before, start.pipeAt? source = some before ∧ (before.ended = true → Ebbed before pipe) ∧
      (before.atEnd = true → pipe.atEnd = true)
  reported : ∀ name command step, (start.lastOf steps).step name command = some step →
    Reported (start.lastOf steps) name command step
  silent : ∀ asked source before, start.origin commands steps asked.1 = some source →
    start.pipeAt? source = some before → before.ended = true →
    (start.lastOf steps).ending asked = []
  write : ∀ name slot holder pipe data, (start.lastOf steps).slot? name = some slot →
    (start.lastOf steps).pipe? slot = some (holder, pipe) → pipe.ended = true →
    (Request.write data).permitted holder = true →
    Refuses (start.lastOf steps) name (.write data) (.count 0) [.lateWrite data.length]
  tryWrite : ∀ name pipe data, (start.lastOf steps).slot? name = some (.whole pipe) →
    pipe.ended = true →
    inputEndedFault.kind = .brokenPipe ∧
      Refuses (start.lastOf steps) name (.tryWrite data) (.fault inputEndedFault) []

theorem run_keepsEnds {earlier later : List (String × Command)} {steps rest : List Step}
    (ran : empty.run earlier = some steps) (followed : (empty.lastOf steps).run later = some rest) :
    KeepsEnds (empty.lastOf steps) later rest := by
  have consistent := empty_consistent.run ran
  have sound := empty_allSound.run empty_consistent ran
  generalize empty.lastOf steps = start at *
  constructor
  case ebbed =>
    intro place pipe source there came
    obtain ⟨before, found, ebbed⟩ := run_ebbed sound consistent followed there came
    refine ⟨before, found, ebbed, fun atEnd => ?_⟩
    have start_sound := sound source before found
    exact (ebbed ((atEnd_iff start_sound).mp atEnd).1).atEnd start_sound atEnd
  case reported =>
    intro name command step stepped
    exact ((consistent.run followed).step_continues stepped).reported
  case silent =>
    intro asked source before came found ended
    cases there : (start.lastOf rest).pipeAt? asked.1 with
    | none => rw [ending, there]
    | some pipe =>
      obtain ⟨same, found', ebbed⟩ := run_ebbed sound consistent followed there came
      cases found.symm.trans found'
      exact ending_of_ended there (ebbed ended).ended
  case write =>
    intro name slot holder pipe data there behind ended permitted
    exact refuses_write there behind ended data permitted
  case tryWrite =>
    intro name pipe data there ended
    exact ⟨rfl, refuses_tryWrite there ended data⟩

-- The sender ends the input before the halves are joined, and the pipe is copied and split once more.
def finishing : List (String × Command) :=
  [("a", .create 4), ("a", .ask (.write [1, 2, 3])), ("a", .split "w" "r"), ("w", .ask .finish)]

def afterwards : List (String × Command) :=
  [("a", .reunite "w" "r"), ("a", .clone "b"), ("b", .ask (.tryWrite [9])), ("a", .split "w" "r"),
    ("w", .ask (.write [4, 5])), ("r", .ask (.read 2)), ("w", .ask .finish), ("w", .drop)]

theorem run_finishing : ∃ steps rest,
    empty.run finishing = some steps ∧ (empty.lastOf steps).run afterwards = some rest ∧
    steps.flatMap (·.events) = [.inputEnded 3 3] ∧
    rest.map (·.reply) =
      [.reunited, .done, .fault inputEndedFault, .done, .count 0, .bytes [1, 2], .done, .done] ∧
    rest.flatMap (·.events) = [.lateWrite 2] ∧
    (empty.lastOf steps).origin afterwards rest (.slot "b") = some (.shared 0) ∧
    KeepsEnds (empty.lastOf steps) afterwards rest :=
  ⟨_, _, rfl, rfl, by decide, by decide, by decide, by decide,
    run_keepsEnds (show empty.run finishing = _ from rfl) rfl⟩

end Conduit.Pipe.Workspace
