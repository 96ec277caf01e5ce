import Conduit.Proofs.Pipe.Finality
set_option autoImplicit false

namespace Conduit.Pipe

variable {pipe : Pipe} {buffer : Bytes}

theorem tryRead_of_nothing (something : buffer ≠ []) (nothing : pipe.size = 0) :
    pipe.tryRead buffer =
      (if pipe.ended then .ok 0 else .error (.plain .wouldBlock), buffer, pipe) := by
  cases ended : pipe.ended <;> simp [tryRead, something, atEnd, isEmpty, nothing, ended]

theorem tryRead_of_held (sound : pipe.Sound) (something : buffer ≠ []) (held : pipe.size ≠ 0) :
    pipe.tryRead buffer =
      (.ok (min buffer.length pipe.size),
        pipe.contents.take buffer.length ++ buffer.drop (min buffer.length pipe.size),
        pipe.discard buffer.length) := by
  simp [tryRead, something, atEnd, isEmpty, held, readInto_eq sound]

theorem tryRead_eq (sound : pipe.Sound) (buffer : Bytes) :
    pipe.tryRead buffer =
      if buffer = [] ∨ pipe.atEnd = true then (.ok 0, buffer, pipe)
      else if pipe.size = 0 then (.error (.plain .wouldBlock), buffer, pipe)
      else
        (.ok (min buffer.length pipe.size),
          pipe.contents.take buffer.length ++ buffer.drop (min buffer.length pipe.size),
          pipe.discard buffer.length) := by
  by_cases none : buffer = []
  next => simp [tryRead, none]
  next =>
    by_cases nothing : pipe.size = 0
    next =>
      rw [tryRead_of_nothing none nothing]
      cases ended : pipe.ended <;> simp [none, atEnd, isEmpty, nothing, ended]
    next => simp [tryRead_of_held sound none nothing, none, atEnd, isEmpty, nothing]

theorem tryRead_eq_ok_zero_iff (sound : pipe.Sound) (buffer : Bytes) :
    (pipe.tryRead buffer).1 = .ok 0 ↔ buffer = [] ∨ pipe.atEnd = true := by
  rw [tryRead_eq sound]
  split
  next stops => simp [stops]
  next goes =>
    have some := List.length_pos_iff.mpr (not_or.mp goes).1
    split
    next => simp [goes]
    next held =>
      have positive : min buffer.length pipe.size ≠ 0 := by omega
      simp [goes, positive]

theorem take_filled (sound : pipe.Sound) (buffer : Bytes) :
    (pipe.contents.take buffer.length ++ buffer.drop (min buffer.length pipe.size)).take
      (min buffer.length pipe.size) = pipe.contents.take buffer.length := by
  have length : (pipe.contents.take buffer.length).length = min buffer.length pipe.size := by
    rw [List.length_take, length_contents sound]
  rw [← length, List.take_left]

theorem readExact_of_nothing (something : buffer ≠ []) (nothing : pipe.size = 0) :
    pipe.readExact buffer =
      (.error (if pipe.ended then endedEarlyFault else .plain .wouldBlock), pipe) := by
  obtain ⟨byte, more, rfl⟩ := List.exists_cons_of_ne_nil something
  rw [readExact, tryRead_of_nothing something nothing]
  cases pipe.ended <;> rfl

theorem readExact_of_held (sound : pipe.Sound) (something : buffer ≠ []) (held : pipe.size ≠ 0) :
    pipe.readExact buffer =
      match (pipe.discard buffer.length).readExact
        (buffer.drop (min buffer.length pipe.size)) with
      | (.error fault, final) => (.error fault, final)
      | (.ok bytes, final) => (.ok (pipe.contents.take buffer.length ++ bytes), final) := by
  obtain ⟨byte, more, rfl⟩ := List.exists_cons_of_ne_nil something
  have taken := take_filled sound (byte :: more)
  obtain ⟨count, counts⟩ : ∃ count, min (byte :: more).length pipe.size = count + 1 :=
    Nat.exists_eq_succ_of_ne_zero (by rw [List.length_cons]; omega)
  rw [counts] at taken
  rw [readExact, tryRead_of_held sound something held, counts, List.drop_succ_cons]
  simp only [List.drop_succ_cons] at taken ⊢
  rcases (pipe.discard _).readExact _ with ⟨_ | _, _⟩
  next => rfl
  next => simp only [taken]

theorem readExact_eq (sound : pipe.Sound) (buffer : Bytes) :
    pipe.readExact buffer =
      if buffer.length ≤ pipe.size then
        (.ok (pipe.contents.take buffer.length), pipe.discard buffer.length)
      else
        (.error (if pipe.ended then endedEarlyFault else .plain .wouldBlock),
          pipe.discard pipe.size) := by
  by_cases none : buffer = []
  next => simp [none, readExact, discard_of_nothing]
  next =>
    by_cases nothing : pipe.size = 0
    next =>
      have some := List.length_pos_iff.mpr none
      rw [if_neg (by omega), readExact_of_nothing none nothing, discard_of_nothing (by omega)]
    next =>
      -- One read fills the buffer or empties the pipe.
      rw [readExact_of_held sound none nothing]
      by_cases fits : buffer.length ≤ pipe.size
      next =>
        rw [if_pos fits, Nat.min_eq_left fits, List.drop_length, readExact]
        simp only [List.append_nil]
      next =>
        have left : buffer.drop (min buffer.length pipe.size) ≠ [] := by
          rw [Ne, List.drop_eq_nil_iff]
          omega
        have emptied : (pipe.discard buffer.length).size = 0 := by
          rw [size_discard]
          omega
        rw [if_neg fits, readExact_of_nothing left emptied, ended_discard, ← discard_min,
          Nat.min_eq_right (by omega)]

-- A read into each buffer until one meets the end or a fault, if the buffers last so long.
def drainInto (pipe : Pipe) : List Bytes → Option (Drained × Pipe)
  | [] => none
  | buffer :: later =>
    match pipe.tryRead buffer with
    | (.error fault, _, rest) => some (⟨[], some fault⟩, rest)
    | (.ok 0, _, rest) => some (⟨[], none⟩, rest)
    | (.ok (count + 1), filled, rest) =>
      (rest.drainInto later).map fun (more, final) =>
        (⟨filled.take (count + 1) ++ more.bytes, more.fault⟩, final)

theorem drainInto_eq (sound : pipe.Sound) {buffers : List Bytes}
    (usable : ∀ buffer ∈ buffers, buffer ≠ []) (enough : pipe.size < buffers.length) :
    pipe.drainInto buffers =
      some (⟨pipe.contents, if pipe.ended then none else some (.plain .wouldBlock)⟩,
        pipe.discard pipe.size) := by
  induction buffers generalizing pipe with
  | nil => exact absurd enough (Nat.not_lt_zero _)
  | cons buffer later ih =>
    obtain ⟨something, others⟩ := List.forall_mem_cons.mp usable
    rw [List.length_cons] at enough
    by_cases nothing : pipe.size = 0
    next =>
      rw [drainInto, tryRead_of_nothing something nothing, contents_eq_nil nothing,
        discard_of_nothing (by omega)]
      cases pipe.ended <;> rfl
    next =>
      have some := List.length_pos_iff.mpr something
      have taken := take_filled sound buffer
      obtain ⟨count, counts⟩ : ∃ count, min buffer.length pipe.size = count + 1 :=
        Nat.exists_eq_succ_of_ne_zero (by omega)
      have fewer : (pipe.discard buffer.length).size < later.length := by
        rw [size_discard]
        omega
      have everything : pipe.discard (buffer.length + (pipe.size - buffer.length)) =
          pipe.discard pipe.size := by
        rw [← discard_min, Nat.min_eq_right (by omega)]
      rw [counts] at taken
      rw [drainInto, tryRead_of_held sound something nothing, counts]
      simp only [ih (discard_sound sound _) others fewer, taken, Option.map_some, ended_discard,
        contents_discard sound, List.take_append_drop, size_discard, discard_discard sound, everything]

theorem drain_of_drainInto {calls : Nat} {result : Drained × Pipe}
    (drained : pipe.drainInto (List.replicate calls drainBuffer) = some result) :
    drain calls pipe = result := by
  induction calls generalizing pipe result with
  | zero => cases drained
  | succ calls ih =>
    rw [List.replicate_succ, drainInto] at drained
    split at drained
    next fault filled rest came =>
      rw [drain, came]
      exact Option.some.inj drained
    next filled rest came =>
      rw [drain, came]
      exact Option.some.inj drained
    next count filled rest came =>
      obtain ⟨⟨more, final⟩, went, rfl⟩ := Option.map_eq_some_iff.mp drained
      rw [drain, came]
      simp only [ih went]

theorem readToEnd_eq (sound : pipe.Sound) :
    pipe.readToEnd =
      (⟨pipe.contents, if pipe.ended then none else some (.plain .wouldBlock)⟩,
        pipe.discard pipe.size) := by
  apply drain_of_drainInto
  apply drainInto_eq sound
  next =>
    intro buffer among
    rw [List.eq_of_mem_replicate among]
    decide
  next => rw [List.length_replicate]; exact Nat.lt_succ_self _

structure TellsEnd (pipe : Pipe) : Prop where
  length : pipe.contents.length = pipe.size
  tryRead : ∀ buffer, pipe.tryRead buffer =
    if buffer = [] ∨ pipe.atEnd = true then (.ok 0, buffer, pipe)
    else if pipe.size = 0 then (.error (.plain .wouldBlock), buffer, pipe)
    else
      (.ok (min buffer.length pipe.size),
        pipe.contents.take buffer.length ++ buffer.drop (min buffer.length pipe.size),
        pipe.discard buffer.length)
  nothing : ∀ buffer, (pipe.tryRead buffer).1 = .ok 0 ↔ buffer = [] ∨ pipe.atEnd = true
  readExact : ∀ buffer, pipe.readExact buffer =
    if buffer.length ≤ pipe.size then
      (.ok (pipe.contents.take buffer.length), pipe.discard buffer.length)
    else
      (.error (if pipe.ended then endedEarlyFault else .plain .wouldBlock), pipe.discard pipe.size)
  kind : endedEarlyFault.kind = .unexpectedEnd
  readToEnd : pipe.readToEnd =
    (⟨pipe.contents, if pipe.ended then none else some (.plain .wouldBlock)⟩,
      pipe.discard pipe.size)
  lasts : ∀ buffers, (∀ buffer ∈ buffers, buffer ≠ []) → pipe.size < buffers.length →
    pipe.drainInto buffers = some pipe.readToEnd
  emptied : (pipe.discard pipe.size).contents = []

namespace Workspace

theorem run_tellsEnd {commands : List (String × Command)} {steps : List Step}
    (ran : empty.run commands = some steps) {spot : Place}
    (there : (empty.lastOf steps).pipeAt? spot = some pipe) : pipe.TellsEnd := by
  have sound := empty_allSound.run empty_consistent ran spot pipe there
  constructor
  case length => exact length_contents sound
  case tryRead => exact tryRead_eq sound
  case nothing => exact tryRead_eq_ok_zero_iff sound
  case readExact => exact readExact_eq sound
  case kind => rfl
  case readToEnd => exact readToEnd_eq sound
  case lasts =>
    intro buffers usable enough
    rw [readToEnd_eq sound, drainInto_eq sound usable enough]
  case emptied => exact contents_eq_nil (by rw [size_discard, Nat.sub_self])

-- Two bytes around the end of a ring of three, and a copy of it whose input ends.
def pausing : List (String × Command) :=
  [("a", .create 3), ("a", .ask (.write [1, 2, 3])), ("a", .ask (.discard 2)),
    ("a", .ask (.write [4])), ("a", .clone "b"), ("b", .ask .finish)]

theorem run_pausing : ∃ steps, ∃ pending ended : Pipe,
    empty.run pausing = some steps ∧
    (empty.lastOf steps).pipeAt? (.slot "a") = some pending ∧
    (empty.lastOf steps).pipeAt? (.slot "b") = some ended ∧
    pending.TellsEnd ∧ ended.TellsEnd ∧
    (pending.readExact [0, 0, 0]).1 = .error (.plain .wouldBlock) ∧
    (ended.readExact [0, 0, 0]).1 = .error endedEarlyFault ∧
    pending.readToEnd.1 = ⟨[3, 4], some (.plain .wouldBlock)⟩ ∧
    ended.readToEnd.1 = ⟨[3, 4], none⟩ := by
  obtain ⟨steps, ran⟩ : ∃ steps, empty.run pausing = some steps := ⟨_, rfl⟩
  obtain ⟨pending, first⟩ : ∃ pipe, (empty.lastOf steps).pipeAt? (.slot "a") = some pipe := by
    cases ran
    exact ⟨_, rfl⟩
  obtain ⟨ended, second⟩ : ∃ pipe, (empty.lastOf steps).pipeAt? (.slot "b") = some pipe := by
    cases ran
    exact ⟨_, rfl⟩
  have waits := run_tellsEnd ran first
  have ends := run_tellsEnd ran second
  have short := congrArg Prod.fst (waits.readExact [0, 0, 0])
  have cut := congrArg Prod.fst (ends.readExact [0, 0, 0])
  have some := congrArg Prod.fst waits.readToEnd
  have all := congrArg Prod.fst ends.readToEnd
  cases ran
  cases first
  cases second
  exact ⟨_, _, _, rfl, rfl, rfl, waits, ends, short, cut, some, all⟩

end Workspace

end Conduit.Pipe
