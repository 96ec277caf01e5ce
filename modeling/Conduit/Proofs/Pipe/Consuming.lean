import Conduit.Proofs.Pipe.Standing
set_option autoImplicit false

namespace Conduit.Pipe

variable {pipe : Pipe}

theorem contents_eq_chunk_append (sound : pipe.Sound) :
    pipe.contents = pipe.chunk ++ (pipe.segments pipe.size).2 := by
  have runs := segments_append sound pipe.size
  rw [← length_contents sound, List.take_length, length_contents sound] at runs
  exact runs.symm

theorem chunk_leads (sound : pipe.Sound) : pipe.chunk <+: pipe.contents := by
  rw [contents_eq_chunk_append sound]
  exact List.prefix_append _ _

theorem length_chunk (sound : pipe.Sound) :
    pipe.chunk.length = min pipe.size (pipe.capacity - pipe.head) := by
  have run := (length_segments sound pipe.size).1
  rwa [Nat.min_self] at run

theorem length_chunk_pos (sound : pipe.Sound) (something : 0 < pipe.size) :
    0 < pipe.chunk.length := by
  have fits := sound.size_le
  have head := sound.head_lt_capacity (by omega)
  rw [length_chunk sound]
  omega

theorem take_chunk (sound : pipe.Sound) (count : Nat) :
    pipe.chunk.take count = pipe.contents.take (pipe.chunk.take count).length := by
  exact List.prefix_iff_eq_take.mp ((List.take_prefix _ _).trans (chunk_leads sound))

theorem gather_eq (sound : pipe.Sound) (count : Nat) : pipe.gather count = pipe.read count := by
  fun_induction gather pipe count with
  | case1 pipe count piece nothing =>
    -- The first chunk is empty only in an empty pipe.
    have least : min count pipe.size = 0 := by
      have positive := length_chunk_pos sound
      simp only [piece, List.length_take] at nothing
      omega
    have bytes : pipe.contents.take count = [] := by
      rw [← List.length_eq_zero_iff, List.length_take, length_contents sound, least]
    rw [read_eq sound, bytes, discard_of_nothing least]
  | case2 pipe count piece something more rest came ih =>
    have after := discard_sound sound piece.length
    have later := came.symm.trans (ih after)
    rw [read_eq after, contents_discard sound, discard_discard sound] at later
    obtain ⟨rfl, rfl⟩ := Prod.mk.inj later
    have front : piece = pipe.contents.take piece.length := take_chunk sound count
    have within : piece.length + (count - piece.length) = count := by
      have short : piece.length ≤ count := List.length_take_le _ _
      omega
    have bytes : pipe.contents.take count =
        piece ++ (pipe.contents.drop piece.length).take (count - piece.length) := by
      rw [← within, List.take_add, ← front, within]
    rw [read_eq sound, bytes, within]

/-- Whichever call takes `count` bytes, it brings `bytes` and leaves `after`, or it changes nothing at all. -/
structure Takes (pipe : Pipe) (count : Nat) (bytes : Bytes) (after : Pipe) : Prop where
  read : pipe.read count = (bytes, after)
  peek : pipe.peek count = bytes
  discard : pipe.discard count = after
  readInto : ∀ buffer : Bytes, buffer.length = count →
    pipe.readInto buffer = (bytes.length, bytes ++ buffer.drop bytes.length, after)
  tryRead : ∀ buffer : Bytes, buffer.length = count →
    pipe.tryRead buffer =
      if 0 < count ∧ pipe.size = 0 ∧ pipe.ended = false then (.error (.plain .wouldBlock), buffer, pipe)
      else (.ok bytes.length, bytes ++ buffer.drop bytes.length, after)
  takeBytes : pipe.takeBytes count = if count ≤ pipe.size then .ok (bytes, after) else .error .shortRead

theorem Sound.takes (sound : pipe.Sound) (count : Nat) :
    pipe.Takes count (pipe.contents.take count) (pipe.discard count) := by
  have length : (pipe.contents.take count).length = min count pipe.size := by
    rw [List.length_take, length_contents sound]
  constructor
  case read => exact read_eq sound count
  case peek => exact peek_eq sound count
  case discard => rfl
  case readInto =>
    rintro buffer rfl
    rw [readInto_eq sound, length]
  case tryRead =>
    rintro buffer rfl
    by_cases nothing : min buffer.length pipe.size = 0
    next =>
      -- Nothing is taken, and only an empty pipe that may still be filled says so by a fault.
      have bytes : pipe.contents.take buffer.length = [] :=
        List.length_eq_zero_iff.mp (length.trans nothing)
      rw [bytes, discard_of_nothing nothing]
      cases buffer with
      | nil => simp [tryRead]
      | cons byte more =>
        have held : pipe.size = 0 := by simpa using nothing
        cases ended : pipe.ended <;> simp [tryRead, atEnd, isEmpty, ended, held]
    next =>
      have something : buffer.isEmpty = false := by
        cases buffer <;> simp at nothing ⊢
      have held : pipe.isEmpty = false := by
        simp only [isEmpty, beq_eq_false_iff_ne]
        omega
      rw [if_neg (by omega), tryRead, something, atEnd, held, Bool.and_false]
      simp [readInto_eq sound, length]
  case takeBytes => rw [takeBytes, gather_eq sound, read_eq sound]

namespace Workspace

variable {workspace : Workspace} {place : End → String}

def ReadsSplit (workspace : Workspace) (name : String) (place : End → String) (count : Nat)
    (bytes : Bytes) (after : Pipe) : Prop :=
  ∃ split taken joined,
    workspace.step name (.split (place .sending) (place .receiving)) = some split ∧
    split.after.step (place .receiving) (.ask (.read count)) = some taken ∧
    taken.reply = .bytes bytes ∧
    taken.after.step name (.reunite (place .sending) (place .receiving)) = some joined ∧
    joined.after.slot? name = some (.whole after)

theorem Consistent.readsSplit (consistent : workspace.Consistent) {name : String}
    (there : workspace.slot? name = some (.whole pipe)) (apart : place .sending ≠ place .receiving)
    {count : Nat} {bytes : Bytes} {after : Pipe} (read : pipe.read count = (bytes, after)) :
    workspace.ReadsSplit name place count bytes after := by
  have shares := Shares.of_split apart consistent name pipe
  obtain ⟨taken, stepped, seen, next⟩ := shares.step (HalfCall.read count).side.mem_both
  simp only [HalfCall.request, answer, read] at seen next
  obtain ⟨joined, reunited, -, back⟩ := next.reunited name
  refine ⟨_, taken, joined, ?_, stepped, congrArg Prod.fst seen, reunited, back⟩
  simp [Workspace.step, there]

theorem run_takes {commands : List (String × Command)} {steps : List Step}
    (ran : empty.run commands = some steps) {spot : Place}
    (there : (empty.lastOf steps).pipeAt? spot = some pipe) (count : Nat) :
    ∃ bytes after,
      bytes = pipe.contents.take count ∧
      pipe.Takes count bytes after ∧
      (∀ name place, spot = .slot name → place .sending ≠ place .receiving →
        (empty.lastOf steps).ReadsSplit name place count bytes after) ∧
      ∀ name number, spot = .shared number →
        (empty.lastOf steps).slot? name = some (.half .receiving number) →
        (empty.lastOf steps).outcome? number name (.read count) = some (.bytes bytes, some after) := by
  have consistent := empty_consistent.run ran
  have sound := empty_allSound.run empty_consistent ran spot pipe there
  have takes := sound.takes count
  refine ⟨_, _, rfl, takes, ?_, ?_⟩
  next =>
    rintro name place rfl apart
    exact consistent.readsSplit (pipeAt?_slot_eq_some.mp there) apart takes.read
  next =>
    rintro name number rfl held
    obtain ⟨holders, found⟩ := pipeAt?_shared_eq_some.mp there
    rw [outcome?_half held found rfl, answer, takes.read]

-- The oldest byte is in the last cell, so two bytes are in two chunks.
def crossing : List (String × Command) :=
  [("a", .create 4), ("a", .ask (.write [1, 2, 3, 4])), ("a", .ask (.discard 3)),
    ("a", .ask (.write [5, 6]))]

theorem run_crossing : ∃ steps, ∃ pipe after : Pipe,
    empty.run crossing = some steps ∧
    (empty.lastOf steps).pipeAt? (.slot "a") = some pipe ∧
    pipe.chunk = [4] ∧ after.head = 1 ∧ after.size = 1 ∧
    pipe.Takes 2 [4, 5] after ∧
    (empty.lastOf steps).ReadsSplit "a" twoSlots 2 [4, 5] after := by
  obtain ⟨steps, ran⟩ : ∃ steps, empty.run crossing = some steps := ⟨_, rfl⟩
  obtain ⟨pipe, there⟩ : ∃ pipe, (empty.lastOf steps).pipeAt? (.slot "a") = some pipe := by
    cases ran
    exact ⟨_, rfl⟩
  obtain ⟨bytes, after, front, takes, split, -⟩ := run_takes ran there 2
  have split := split "a" twoSlots rfl (by decide)
  have left := takes.discard
  cases ran
  cases there
  cases front
  cases left
  exact ⟨_, _, _, rfl, rfl, by decide, by decide, by decide, takes, split⟩

end Workspace

end Conduit.Pipe
