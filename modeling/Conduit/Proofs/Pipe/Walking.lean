import Mathlib.Data.Int.ModEq
import Mathlib.Data.Nat.Digits.Defs
import Conduit.Proofs.Pipe.Consuming
set_option autoImplicit false

namespace Conduit.Pipe

variable {pipe : Pipe}

namespace NumberFormat

variable {format : NumberFormat} {bytes : Bytes} {value : Int}

-- Digits to the base 256, lowest first.
def digits (format : NumberFormat) (bytes : Bytes) : List Nat :=
  match format.order with
  | .littleEndian => bytes.map UInt8.toNat
  | .bigEndian => (bytes.map UInt8.toNat).reverse

-- As many numbers as there are byte strings of the width, around zero if the format has a sign.
def Holds (format : NumberFormat) (value : Int) : Prop :=
  if format.signed then -256 ^ format.width ≤ 2 * value ∧ 2 * value < 256 ^ format.width
  else 0 ≤ value ∧ value < 256 ^ format.width

def Encodes (format : NumberFormat) (bytes : Bytes) (value : Int) : Prop :=
  format.Holds value ∧
    value ≡ (Nat.ofDigits 256 (format.digits bytes) : Nat) [ZMOD 256 ^ format.width]

instance : Decidable (format.Holds value) := show Decidable (if _ then _ else _) from inferInstance

instance : Decidable (format.Encodes bytes value) := show Decidable (_ ∧ _) from inferInstance

theorem magnitude_eq (format : NumberFormat) (bytes : Bytes) :
    format.magnitude bytes = Nat.ofDigits 256 (format.digits bytes) := by
  rw [Nat.ofDigits_eq_foldr, magnitude, digits]
  cases format.order with
  | littleEndian => rw [List.foldr_map]; rfl
  | bigEndian =>
    rw [List.foldr_reverse, List.foldl_map]
    simp only [bigEndianValue, Nat.cast_id, Nat.mul_comm, Nat.add_comm]

theorem magnitude_lt (format : NumberFormat) (bytes : Bytes) :
    format.magnitude bytes < 256 ^ bytes.length := by
  have length : (format.digits bytes).length = bytes.length := by
    unfold digits
    split <;> simp
  rw [magnitude_eq, ← length]
  apply Nat.ofDigits_lt_base_pow_length (by decide)
  intro digit among
  obtain ⟨byte, -, rfl⟩ : ∃ byte ∈ bytes, byte.toNat = digit := by
    unfold digits at among
    split at among <;> simpa using among
  exact byte.toNat_lt

theorem encodes_iff_eq_decode (length : bytes.length = format.width) :
    format.Encodes bytes value ↔ value = format.decode bytes := by
  have below := magnitude_lt format bytes
  rw [length] at below
  have positive : 0 < 256 ^ format.width := Nat.pow_pos (by decide)
  have power : (256 : Int) ^ format.width = (256 ^ format.width : Nat) := by rw [Nat.cast_pow]; rfl
  rw [Encodes, ← magnitude_eq, decode, Holds, power]
  simp only [Nat.pow_eq]
  generalize 256 ^ format.width = bound at *
  generalize format.magnitude bytes = magnitude at *
  cases format.signed with
  | true =>
    have halves : -(bound / 2 : Int) ≤ value ∧ value < (bound + 1 : Int) / 2 ↔
        -(bound : Int) ≤ 2 * value ∧ 2 * value < bound := by omega
    rw [if_pos rfl, if_pos rfl, eq_comm (a := value), Int.bmod_eq_iff positive, ← and_assoc, halves,
      ← Int.modEq_iff_dvd, Int.modEq_comm]
  | false =>
    simp only [Bool.false_eq_true, if_false]
    constructor
    next =>
      rintro ⟨⟨low, high⟩, same⟩
      rwa [Int.ModEq, Int.emod_eq_of_lt low high, Int.emod_eq_of_lt (by omega) (by omega)] at same
    next =>
      rintro rfl
      exact ⟨⟨by omega, by omega⟩, rfl⟩

end NumberFormat

theorem segments_fst_ne_nil (sound : pipe.Sound) (count : Nat) :
    (pipe.segments count).1 ≠ [] ↔ 0 < min count pipe.size := by
  have fits := sound.size_le
  have head := sound.head_lt
  rw [← List.length_pos_iff, (length_segments sound count).1]
  omega

theorem segments_snd_ne_nil (sound : pipe.Sound) (count : Nat) :
    (pipe.segments count).2 ≠ [] ↔ pipe.capacity < pipe.head + min count pipe.size := by
  have fits := sound.size_le
  have head := sound.head_lt
  rw [← List.length_pos_iff, (length_segments sound count).2]
  omega

theorem chunk_eq_nil_iff (sound : pipe.Sound) : pipe.chunk = [] ↔ pipe.size = 0 := by
  have something := segments_fst_ne_nil sound pipe.size
  rw [Nat.min_self, Nat.pos_iff_ne_zero] at something
  exact not_iff_not.mp something

theorem chunks_eq (sound : pipe.Sound) (slots : Nat) :
    pipe.chunks slots =
      ([(pipe.segments pipe.size).1, (pipe.segments pipe.size).2].filter (!·.isEmpty)).take slots := by
  have front := segments_fst_ne_nil sound pipe.size
  have back := segments_snd_ne_nil sound pipe.size
  have fits := sound.size_le
  have head := sound.head_eq
  unfold chunks
  generalize pipe.segments pipe.size = runs at *
  obtain ⟨first, second⟩ := runs
  simp only at front back ⊢
  cases first with
  | nil =>
    have nothing : second = [] := by
      by_contra more
      have passes := back.mp more
      simp at front
      omega
    simp [nothing]
  | cons byte more => cases second <;> simp

theorem flatten_chunks (sound : pipe.Sound) {slots : Nat} (both : 2 ≤ slots) :
    (pipe.chunks slots).flatten = pipe.contents := by
  rw [chunks_eq sound, List.take_of_length_le ((List.length_filter_le ..).trans both),
    List.flatten_filter_not_isEmpty, contents_eq_chunk_append sound]
  simp [chunk]

-- Copies the chunk and moves past it while bytes remain, if no more than so many rounds are needed.
def walk (pipe : Pipe) : Nat → Option (List Bytes × Pipe)
  | 0 => if pipe.size = 0 then some ([], pipe) else none
  | rounds + 1 =>
    if pipe.size = 0 then some ([], pipe)
    else
      match pipe.advance pipe.chunk.length with
      | .ok rest => (rest.walk rounds).map fun (chunks, last) => (pipe.chunk :: chunks, last)
      | .error _ => none

theorem walk_of_nothing (nothing : pipe.size = 0) (rounds : Nat) :
    pipe.walk rounds = some ([], pipe) := by
  cases rounds <;> simp [walk, nothing]

theorem walk_succ (sound : pipe.Sound) (something : pipe.size ≠ 0) (rounds : Nat) :
    pipe.walk (rounds + 1) =
      ((pipe.discard pipe.chunk.length).walk rounds).map fun (chunks, last) =>
        (pipe.chunk :: chunks, last) := by
  have within : pipe.chunk.length ≤ pipe.size := by
    rw [length_chunk sound]
    exact Nat.min_le_left ..
  rw [walk, if_neg something, advance, if_pos within]

theorem chunk_of_contiguous (sound : pipe.Sound) (contiguous : pipe.head + pipe.size ≤ pipe.capacity) :
    (pipe.segments pipe.size).2 = [] ∧ pipe.chunk = pipe.contents := by
  have nothing : (pipe.segments pipe.size).2 = [] := by
    have passes := segments_snd_ne_nil sound pipe.size
    rw [Nat.min_self] at passes
    by_contra more
    have := passes.mp more
    omega
  refine ⟨nothing, ?_⟩
  rw [contents_eq_chunk_append sound, nothing, List.append_nil]

theorem walk_of_contiguous (sound : pipe.Sound) (something : pipe.size ≠ 0)
    (contiguous : pipe.head + pipe.size ≤ pipe.capacity) (rounds : Nat) :
    pipe.walk (rounds + 1) = some ([pipe.contents], pipe.discard pipe.size) := by
  rw [walk_succ sound something, (chunk_of_contiguous sound contiguous).2, length_contents sound,
    walk_of_nothing (by rw [size_discard, Nat.sub_self])]
  rfl

-- The first chunk ends with the ring or takes everything, so what is left begins with the first cell.
theorem head_past_chunk (sound : pipe.Sound) : (pipe.discard pipe.chunk.length).head = 0 := by
  have fits := sound.size_le
  have head := sound.head_lt
  have length := length_chunk sound
  rw [head_discard sound]
  split
  next => rfl
  next =>
    have whole : pipe.head + pipe.chunk.length = pipe.capacity := by omega
    rw [whole, Nat.mod_self]

theorem walk_of_passing (sound : pipe.Sound) (passes : pipe.capacity < pipe.head + pipe.size)
    (rounds : Nat) :
    pipe.walk (rounds + 2) =
      some ([pipe.chunk, (pipe.segments pipe.size).2], pipe.discard pipe.size) := by
  have fits := sound.size_le
  have head := sound.head_lt
  have length := length_chunk sound
  have after := discard_sound sound pipe.chunk.length
  have more : (pipe.discard pipe.chunk.length).size ≠ 0 := by
    rw [size_discard]
    omega
  have contiguous : (pipe.discard pipe.chunk.length).head + (pipe.discard pipe.chunk.length).size ≤
      (pipe.discard pipe.chunk.length).capacity := by
    rw [head_past_chunk sound, Nat.zero_add]
    exact after.size_le
  have rest : (pipe.discard pipe.chunk.length).contents = (pipe.segments pipe.size).2 := by
    rw [contents_discard sound, contents_eq_chunk_append sound, List.drop_left]
  have everything : pipe.chunk.length + (pipe.size - pipe.chunk.length) = pipe.size := by omega
  rw [walk_succ sound (by omega), walk_of_contiguous after more contiguous, rest, size_discard,
    discard_discard sound, everything]
  rfl

theorem walk_eq (sound : pipe.Sound) {rounds : Nat} (enough : (pipe.chunks 2).length ≤ rounds) :
    pipe.walk rounds = some (pipe.chunks 2, pipe.discard pipe.size) := by
  have listed := chunks_eq sound 2
  have front := chunk_eq_nil_iff sound
  change _ = ([pipe.chunk, _].filter _).take 2 at listed
  by_cases nothing : pipe.size = 0
  next =>
    have none : pipe.chunks 2 = [] := by simp [chunks, segments, nothing]
    rw [none, walk_of_nothing nothing, discard_of_nothing (by omega)]
  next =>
    by_cases contiguous : pipe.head + pipe.size ≤ pipe.capacity
    next =>
      obtain ⟨only, whole⟩ := chunk_of_contiguous sound contiguous
      have one : pipe.chunks 2 = [pipe.contents] := by simp [listed, only, ← whole, front, nothing]
      rw [one] at enough ⊢
      obtain ⟨later, rfl⟩ := Nat.exists_eq_add_of_le' enough
      exact walk_of_contiguous sound nothing contiguous later
    next =>
      have passes := Nat.lt_of_not_le contiguous
      have second : (pipe.segments pipe.size).2 ≠ [] := by
        simpa [passes] using segments_snd_ne_nil sound pipe.size
      have two : pipe.chunks 2 = [pipe.chunk, (pipe.segments pipe.size).2] := by
        simp [listed, front, nothing, second]
      rw [two] at enough ⊢
      obtain ⟨later, rfl⟩ := Nat.exists_eq_add_of_le' enough
      exact walk_of_passing sound passes later

structure Walkable (pipe : Pipe) : Prop where
  segments : ∀ count,
    (pipe.segments count).1 ++ (pipe.segments count).2 = pipe.contents.take (min count pipe.size)
  front : ∀ count, (pipe.segments count).1 ≠ [] ↔ 0 < min count pipe.size
  back : ∀ count,
    (pipe.segments count).2 ≠ [] ↔ pipe.capacity < pipe.head + min count pipe.size
  chunk : pipe.chunk = [] ↔ (pipe.answer .whole .remaining).1 = .count 0
  chunks : ∀ slots, pipe.chunks slots =
    ([(pipe.segments pipe.size).1, (pipe.segments pipe.size).2].filter (!·.isEmpty)).take slots
  flatten : ∀ slots, 2 ≤ slots → (pipe.chunks slots).flatten = pipe.contents
  walk : ∀ rounds, 2 ≤ rounds →
    pipe.walk rounds = some (pipe.chunks 2, pipe.discard pipe.size) ∧
      (pipe.discard pipe.size).contents = []
  takeNumber : ∀ format : NumberFormat, format.width ≤ pipe.size →
    ∃ value, pipe.takeNumber format = .ok (value, pipe.discard format.width) ∧
      ∀ other, format.Encodes (pipe.contents.take format.width) other ↔ other = value
  refused : ∀ asked, pipe.size < asked →
    pipe.answer .whole (.advance asked) = (.misuse (.advancePast asked pipe.size), pipe) ∧
      pipe.answer .whole (.takeBytes asked) = (.misuse .shortRead, pipe) ∧
      ∀ format : NumberFormat, format.width = asked →
        pipe.answer .whole (.takeNumber format) = (.misuse .shortRead, pipe)

theorem takeNumber_eq (sound : pipe.Sound) {format : NumberFormat} (held : format.width ≤ pipe.size) :
    pipe.takeNumber format =
      .ok (format.decode (pipe.contents.take format.width), pipe.discard format.width) := by
  rw [takeNumber, if_neg (by omega)]
  split
  next fast =>
    have first := take_chunk sound format.width
    rw [List.length_take, Nat.min_eq_left fast] at first
    rw [first]
  next => rw [gather_eq sound, read_eq sound]

namespace Workspace

theorem run_walkable {commands : List (String × Command)} {steps : List Step}
    (ran : empty.run commands = some steps) {spot : Place}
    (there : (empty.lastOf steps).pipeAt? spot = some pipe) : pipe.Walkable := by
  have sound := empty_allSound.run empty_consistent ran spot pipe there
  constructor
  case segments =>
    intro count
    rw [segments_append sound, ← length_contents sound, ← List.take_take, List.take_length]
  case front => exact segments_fst_ne_nil sound
  case back => exact segments_snd_ne_nil sound
  case chunk =>
    rw [chunk_eq_nil_iff sound]
    simp [answer]
  case chunks => exact chunks_eq sound
  case flatten => exact fun slots both => flatten_chunks sound both
  case walk =>
    intro rounds both
    have few : (pipe.chunks 2).length ≤ 2 := List.length_take_le ..
    refine ⟨walk_eq sound (few.trans both), ?_⟩
    rw [contents_discard sound, ← length_contents sound, List.drop_length]
  case takeNumber =>
    intro format held
    refine ⟨_, takeNumber_eq sound held, fun other => NumberFormat.encodes_iff_eq_decode ?_⟩
    rw [List.length_take, length_contents sound, Nat.min_eq_left held]
  case refused =>
    intro asked short
    have exceeds : ¬asked ≤ pipe.size := by omega
    refine ⟨?_, ?_, ?_⟩
    next => rw [answer, advance, if_neg exceeds]; rfl
    next => rw [answer, takeBytes, if_neg exceeds]; rfl
    next =>
      rintro format rfl
      rw [answer, takeNumber, if_pos short]
      rfl

-- The number minus two stands in the last cell and the first one.
def straddling : List (String × Command) :=
  [("a", .create 4), ("a", .ask (.write [1, 2, 3, 255])), ("a", .ask (.discard 3)),
    ("a", .ask (.write [254, 7]))]

theorem run_straddling : ∃ steps, ∃ pipe last : Pipe,
    empty.run straddling = some steps ∧
    (empty.lastOf steps).pipeAt? (.slot "a") = some pipe ∧
    pipe.Walkable ∧
    pipe.chunks 1 = [[255]] ∧
    pipe.walk 2 = some ([[255], [254, 7]], last) ∧
    pipe.walk 1 = none ∧
    pipe.takeNumber ⟨2, true, .bigEndian⟩ = .ok (-2, pipe.discard 2) ∧
    pipe.answer .whole (.takeNumber ⟨4, false, .littleEndian⟩) = (.misuse .shortRead, pipe) := by
  obtain ⟨steps, ran⟩ : ∃ steps, empty.run straddling = some steps := ⟨_, rfl⟩
  obtain ⟨pipe, there⟩ : ∃ pipe, (empty.lastOf steps).pipeAt? (.slot "a") = some pipe := by
    cases ran
    exact ⟨_, rfl⟩
  have walkable := run_walkable ran there
  cases ran
  cases there
  obtain ⟨value, took, only⟩ := walkable.takeNumber ⟨2, true, .bigEndian⟩ (by decide)
  obtain rfl := (only (-2)).mp (by decide)
  exact ⟨_, _, _, rfl, rfl, walkable, by decide, (walkable.walk 2 (by decide)).1, by decide, took,
    (walkable.refused 4 (by decide)).2.2 ⟨4, false, .littleEndian⟩ rfl⟩

end Workspace

end Conduit.Pipe
