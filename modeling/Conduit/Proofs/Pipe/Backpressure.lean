import Conduit.Proofs.Pipe.Finality
set_option autoImplicit false

namespace Conduit.Pipe

variable {pipe : Pipe} {data : Bytes}

theorem accepted_of_going (going : pipe.ended = false) (data : Bytes) :
    pipe.accepted data = min data.length pipe.room := by
  rw [accepted, going]
  rfl

theorem tryWrite_eq (pipe : Pipe) (data : Bytes) :
    pipe.tryWrite data =
      if pipe.ended then (.error inputEndedFault, pipe)
      else if data = [] then (.ok 0, pipe)
      else if pipe.room = 0 then (.error (.plain .wouldBlock), pipe)
      else (.ok (min pipe.room data.length), (pipe.write data).2) := by
  cases ended : pipe.ended with
  | true => simp [tryWrite, ended]
  | false =>
    cases data with
    | nil => simp [tryWrite, ended]
    | cons byte more =>
      have count := accepted_of_going ended (byte :: more)
      rw [List.length_cons] at count
      by_cases full : pipe.room = 0
      next =>
        have nothing : pipe.accepted (byte :: more) = 0 := by omega
        simp [tryWrite, ended, full, write, nothing]
      next => simp [tryWrite, ended, full, write, count, Nat.min_comm]

-- `bytes` stand behind what was there, and nothing else is to be seen of them.
structure Staged (before : Pipe) (bytes : Bytes) (after : Pipe) : Prop where
  contents_eq : after.contents = before.contents ++ bytes
  capacity_eq : after.capacity = before.capacity
  ended_eq : after.ended = before.ended
  totalIn_eq : after.totalIn = before.totalIn + UInt64.ofNat bytes.length
  totalOut_eq : after.totalOut = before.totalOut

theorem Sound.staged (sound : pipe.Sound) (data : Bytes) :
    pipe.Staged (data.take (pipe.accepted data)) (pipe.write data).2 :=
  { contents_eq := contents_write sound data
    capacity_eq := capacity_write sound data
    ended_eq := ended_write data
    totalIn_eq := by rw [length_accepted, totalIn_write]
    totalOut_eq := totalOut_write data }

-- `writeAll` with the number of single writes that it makes.
def writeAllCounted (pipe : Pipe) (data : Bytes) : Nat × Except Fault Unit × Pipe :=
  match data with
  | [] => (0, .ok (), pipe)
  | byte :: more =>
    match pipe.tryWrite (byte :: more) with
    | (.error fault, rest) => (1, .error fault, rest)
    | (.ok 0, rest) => (1, .error nothingWrittenFault, rest)
    | (.ok (count + 1), rest) =>
      let (calls, outcome) := rest.writeAllCounted (more.drop count)
      (calls + 1, outcome)
  termination_by data.length
  decreasing_by simp only [List.length_cons, List.length_drop]; omega

theorem writeAllCounted_snd (pipe : Pipe) (data : Bytes) :
    (pipe.writeAllCounted data).2 = pipe.writeAll data := by
  fun_induction writeAllCounted pipe data with
  | case1 pipe => rw [writeAll]
  | case2 pipe byte more fault rest came => rw [writeAll, came]
  | case3 pipe byte more rest came => rw [writeAll, came]
  | case4 pipe byte more count rest came calls outcome later ih =>
    rw [later] at ih
    rw [writeAll, came]
    exact ih

theorem writeAllCounted_of_error {fault : Fault} {rest : Pipe} (something : data ≠ [])
    (failed : pipe.tryWrite data = (.error fault, rest)) :
    pipe.writeAllCounted data = (1, .error fault, rest) := by
  obtain ⟨byte, more, rfl⟩ := List.exists_cons_of_ne_nil something
  rw [writeAllCounted, failed]

theorem writeAllCounted_of_ok {count : Nat} {rest : Pipe} (something : data ≠ []) (took : count ≠ 0)
    (wrote : pipe.tryWrite data = (.ok count, rest)) :
    pipe.writeAllCounted data =
      ((rest.writeAllCounted (data.drop count)).1 + 1, (rest.writeAllCounted (data.drop count)).2) := by
  obtain ⟨byte, more, rfl⟩ := List.exists_cons_of_ne_nil something
  obtain ⟨count, rfl⟩ := Nat.exists_eq_succ_of_ne_zero took
  rw [writeAllCounted, wrote, List.drop_succ_cons]

theorem write_of_full (full : pipe.room = 0) (data : Bytes) : (pipe.write data).2 = pipe := by
  have least := pipe.accepted_le_room data
  exact write_of_nothing (by omega)

theorem writeAllCounted_of_full (going : pipe.ended = false) (full : pipe.room = 0)
    (something : data ≠ []) :
    pipe.writeAllCounted data = (1, .error (.plain .wouldBlock), pipe) := by
  apply writeAllCounted_of_error something
  rw [tryWrite_eq, going, if_neg Bool.false_ne_true, if_neg something, if_pos full]

theorem writeAllCounted_of_room (sound : pipe.Sound) (going : pipe.ended = false)
    (space : pipe.room ≠ 0) (something : data ≠ []) :
    pipe.writeAllCounted data =
      if data.length ≤ pipe.room then (1, .ok (), (pipe.write data).2)
      else (2, .error (.plain .wouldBlock), (pipe.write data).2) := by
  have took : min pipe.room data.length ≠ 0 := by
    have := List.length_pos_iff.mpr something
    omega
  have wrote : pipe.tryWrite data = (.ok (min pipe.room data.length), (pipe.write data).2) := by
    rw [tryWrite_eq, going, if_neg Bool.false_ne_true, if_neg something, if_neg space]
  rw [writeAllCounted_of_ok something took wrote]
  split
  next fits => rw [Nat.min_eq_right fits, List.drop_length, writeAllCounted]
  next exceeds =>
    -- What is left finds the pipe full.
    have left : data.drop (min pipe.room data.length) ≠ [] := by
      rw [Ne, List.drop_eq_nil_iff]
      omega
    have full : (pipe.write data).2.room = 0 := by
      rw [room_write sound, accepted_of_going going]
      omega
    rw [writeAllCounted_of_full ((ended_write data).trans going) full left]

theorem writeAllCounted_eq (sound : pipe.Sound) (data : Bytes) :
    pipe.writeAllCounted data =
      if data = [] then (0, .ok (), pipe)
      else if pipe.ended then (1, .error inputEndedFault, pipe)
      else if data.length ≤ pipe.room then (1, .ok (), (pipe.write data).2)
      else (if pipe.room = 0 then 1 else 2, .error (.plain .wouldBlock), (pipe.write data).2) := by
  by_cases nothing : data = []
  next => rw [if_pos nothing, nothing, writeAllCounted]
  next =>
    rw [if_neg nothing]
    cases ended : pipe.ended with
    | true =>
      rw [if_pos rfl]
      apply writeAllCounted_of_error nothing
      rw [tryWrite_eq, if_pos ended]
    | false =>
      rw [if_neg Bool.false_ne_true]
      by_cases full : pipe.room = 0
      next =>
        have exceeds : ¬data.length ≤ pipe.room := by
          rw [full, Nat.le_zero, List.length_eq_zero_iff]
          exact nothing
        rw [if_neg exceeds, if_pos full, write_of_full full]
        exact writeAllCounted_of_full ended full nothing
      next =>
        rw [if_neg full]
        exact writeAllCounted_of_room sound ended full nothing

structure PushesBack (pipe : Pipe) (data : Bytes) : Prop where
  tryWrite : pipe.tryWrite data =
    if pipe.ended then (.error inputEndedFault, pipe)
    else if data = [] then (.ok 0, pipe)
    else if pipe.room = 0 then (.error (.plain .wouldBlock), pipe)
    else (.ok (min pipe.room data.length), (pipe.write data).2)
  staged : pipe.ended = false → pipe.Staged (data.take pipe.room) (pipe.write data).2
  full : pipe.room = 0 → (pipe.write data).2 = pipe
  writeAll : pipe.writeAll data =
    if data = [] then (.ok (), pipe)
    else if pipe.ended then (.error inputEndedFault, pipe)
    else if data.length ≤ pipe.room then (.ok (), (pipe.write data).2)
    else (.error (.plain .wouldBlock), (pipe.write data).2)
  kind : ∀ fault, (pipe.tryWrite data).1 = .error fault ∨ (pipe.writeAll data).1 = .error fault →
    fault.kind = if pipe.ended then .brokenPipe else .wouldBlock
  calls : ∃ calls ≤ 2, pipe.writeAllCounted data = (calls, pipe.writeAll data)

namespace Workspace

theorem run_pushesBack {commands : List (String × Command)} {steps : List Step}
    (ran : empty.run commands = some steps) {spot : Place}
    (there : (empty.lastOf steps).pipeAt? spot = some pipe) (data : Bytes) : pipe.PushesBack data := by
  have sound := empty_allSound.run empty_consistent ran spot pipe there
  have counted := writeAllCounted_eq sound data
  have whole := writeAllCounted_snd pipe data
  constructor
  case tryWrite => exact tryWrite_eq pipe data
  case staged =>
    intro going
    have same : data.take (pipe.accepted data) = data.take pipe.room := by
      rw [accepted_of_going going, Nat.min_comm, ← List.take_take, List.take_length]
    exact same ▸ sound.staged data
  case full => exact fun full => write_of_full full data
  case writeAll =>
    rw [← whole, counted]
    simp only [apply_ite Prod.snd]
  case kind =>
    rw [tryWrite_eq, ← whole, counted]
    intro fault
    cases pipe.ended <;> grind [inputEndedFault, Fault.kind]
  case calls =>
    refine ⟨(pipe.writeAllCounted data).1, ?_, Prod.ext rfl whole⟩
    rw [counted]
    grind

-- Two cells are free, one at each end of the ring.
def crowded : List (String × Command) :=
  [("a", .create 4), ("a", .ask (.write [1, 2, 3])), ("a", .ask (.discard 1))]

theorem run_crowded : ∃ steps, ∃ pipe full : Pipe,
    empty.run crowded = some steps ∧
    (empty.lastOf steps).pipeAt? (.slot "a") = some pipe ∧
    pipe.PushesBack [4, 5, 6] ∧
    pipe.tryWrite [4, 5, 6] = (.ok 2, full) ∧
    pipe.writeAll [4, 5, 6] = (.error (.plain .wouldBlock), full) ∧
    full.cells = [5, 2, 3, 4] := by
  obtain ⟨steps, ran⟩ : ∃ steps, empty.run crowded = some steps := ⟨_, rfl⟩
  obtain ⟨pipe, there⟩ : ∃ pipe, (empty.lastOf steps).pipeAt? (.slot "a") = some pipe := by
    cases ran
    exact ⟨_, rfl⟩
  have pushesBack := run_pushesBack ran there [4, 5, 6]
  have some := pushesBack.tryWrite
  have all := pushesBack.writeAll
  cases ran
  cases there
  exact ⟨_, _, _, rfl, rfl, pushesBack, some, all, by decide⟩

end Workspace

end Conduit.Pipe
