import Mathlib.Algebra.Ring.Nat
import Conduit.Proofs.Pipe.Finality
set_option autoImplicit false

namespace Conduit.Pipe

variable {pipe : Pipe}

-- How far behind the tail a cell is, round the end of the ring.
def behind (pipe : Pipe) (cell : Nat) : Nat :=
  if pipe.tail ≤ cell then cell - pipe.tail else cell + pipe.capacity - pipe.tail

theorem getElem?_stored_behind (sound : pipe.Sound) {data : Bytes}
    (fits : pipe.size + data.length ≤ pipe.capacity) {cell : Nat} (inside : cell < pipe.capacity) :
    (pipe.stored data)[cell]? =
      if pipe.behind cell < data.length then data[pipe.behind cell]? else pipe.cells[cell]? := by
  have tail := sound.tail_lt_capacity (by omega)
  rw [getElem?_stored data sound (by omega) fits, behind]
  by_cases after : pipe.tail ≤ cell
  next =>
    by_cases covered : cell - pipe.tail < data.length
    next =>
      rw [if_neg (by omega), if_pos (by omega), if_pos inside, if_pos after, if_pos covered]
    next => rw [if_neg (by omega), if_neg (by omega), if_pos after, if_neg covered]
  next =>
    by_cases covered : cell + pipe.capacity - pipe.tail < data.length
    next => rw [if_pos (by omega), if_neg after, if_pos covered]
    next => rw [if_neg (by omega), if_neg (by omega), if_neg after, if_neg covered]

section Fits

variable {front back : Bytes}

theorem tail_fill (sound : pipe.Sound) (fits : pipe.size + front.length ≤ pipe.capacity) :
    (pipe.fill front).tail = (pipe.tail + front.length) % pipe.capacity := by
  rw [tail, capacity_fill sound fits, tail, Nat.mod_add_mod, Nat.add_assoc]
  rfl

theorem behind_fill (sound : pipe.Sound) (fits : pipe.size + front.length ≤ pipe.capacity)
    {cell : Nat} (inside : cell < pipe.capacity) :
    (pipe.fill front).behind cell =
      if pipe.behind cell < front.length then pipe.behind cell + pipe.capacity - front.length
      else pipe.behind cell - front.length := by
  have tail := sound.tail_lt_capacity (by omega)
  simp only [behind, tail_fill sound fits, capacity_fill sound fits]
  by_cases within : pipe.tail + front.length < pipe.capacity
  next =>
    rw [wrap_below within]
    split <;> split <;> split <;> omega
  next =>
    rw [wrap_above (by omega) (by omega)]
    split <;> split <;> split <;> omega

theorem stored_fill (sound : pipe.Sound)
    (fits : pipe.size + (front.length + back.length) ≤ pipe.capacity) :
    (pipe.fill front).stored back = pipe.stored (front ++ back) := by
  have first : pipe.size + front.length ≤ pipe.capacity := by omega
  have same := capacity_fill sound first
  have filled := fill_sound sound first
  have second : (pipe.fill front).size + back.length ≤ (pipe.fill front).capacity := by
    rw [same]
    exact Nat.add_assoc .. ▸ fits
  have whole : pipe.size + (front ++ back).length ≤ pipe.capacity := by
    rwa [List.length_append]
  by_cases some : 0 < pipe.capacity
  next =>
    have lengths : ((pipe.fill front).stored back).length = pipe.capacity :=
      (length_stored back filled (same ▸ some) second).trans same
    apply List.ext_getElem?
    intro cell
    by_cases inside : cell < pipe.capacity
    next =>
      -- A cell behind the tail by less than `front` reaches has its byte from there, and then keeps it.
      have cells : (pipe.fill front).cells[cell]? = (pipe.stored front)[cell]? := rfl
      rw [getElem?_stored_behind filled second (same ▸ inside), cells,
        getElem?_stored_behind sound first inside, getElem?_stored_behind sound whole inside,
        behind_fill sound first inside, List.getElem?_append, List.length_append]
      by_cases early : pipe.behind cell < front.length
      next =>
        rw [if_pos early, if_neg (by omega), if_pos early, if_pos (by omega), if_pos early]
      next =>
        rw [if_neg early, if_neg early, if_neg early]
        by_cases late : pipe.behind cell - front.length < back.length
        next => rw [if_pos late, if_pos (by omega)]
        next => rw [if_neg late, if_neg (by omega)]
    next =>
      rw [List.getElem?_eq_none (by omega),
        List.getElem?_eq_none (by rw [length_stored _ sound some whole]; omega)]
  next =>
    have nothing : front = [] ∧ back = [] :=
      ⟨List.length_eq_zero_iff.mp (by omega), List.length_eq_zero_iff.mp (by omega)⟩
    rw [nothing.1, nothing.2, fill_nil]
    rfl

theorem fill_fill (sound : pipe.Sound)
    (fits : pipe.size + (front.length + back.length) ≤ pipe.capacity) :
    (pipe.fill front).fill back = pipe.fill (front ++ back) := by
  apply Pipe.ext
  case cells => exact stored_fill sound fits
  case head => rfl
  case size => exact (Nat.add_assoc ..).trans (congrArg _ List.length_append.symm)
  case totalIn =>
    show pipe.totalIn + UInt64.ofNat front.length + UInt64.ofNat back.length = _
    rw [UInt64.add_assoc, ← UInt64.ofNat_add, ← List.length_append]
    rfl
  case totalOut => rfl
  case ended => rfl

end Fits

theorem accepted_append (sound : pipe.Sound) (front back : Bytes) :
    pipe.accepted (front ++ back) =
      pipe.accepted front + (pipe.write front).2.accepted back := by
  have room := room_write sound front
  unfold accepted at room ⊢
  rw [ended_write, room, List.length_append]
  cases pipe.ended with
  | true => rfl
  | false =>
    simp only [Bool.false_eq_true, if_false]
    omega

-- A pipe that takes more has taken all of what came before.
theorem accepted_eq_length (sound : pipe.Sound) {front back : Bytes}
    (more : (pipe.write front).2.accepted back ≠ 0) : pipe.accepted front = front.length := by
  have room := room_write sound front
  unfold accepted at more room ⊢
  rw [ended_write, room] at more
  cases ended : pipe.ended with
  | true => simp [ended] at more
  | false =>
    simp only [ended, Bool.false_eq_true, if_false] at more ⊢
    omega

theorem take_accepted_append (sound : pipe.Sound) (front back : Bytes) :
    (front ++ back).take (pipe.accepted (front ++ back)) =
      front.take (pipe.accepted front) ++ back.take ((pipe.write front).2.accepted back) := by
  rw [accepted_append sound]
  by_cases more : (pipe.write front).2.accepted back = 0
  next =>
    rw [more, Nat.add_zero, List.take_zero, List.append_nil]
    exact List.take_append_of_le_length (accepted_le_length front)
  next =>
    rw [accepted_eq_length sound more, List.take_length, List.take_length_add_append]

theorem write_append (sound : pipe.Sound) (front back : Bytes) :
    pipe.write (front ++ back) =
      ((pipe.write front).1 + ((pipe.write front).2.write back).1,
        ((pipe.write front).2.write back).2) := by
  apply Prod.ext
  case fst => rw [write_fst, write_fst, write_fst, accepted_append sound]
  case snd =>
    have fits : pipe.size + ((front.take (pipe.accepted front)).length +
        (back.take ((pipe.write front).2.accepted back)).length) ≤ pipe.capacity := by
      have within := accepted_add_size_le sound (front ++ back)
      rw [length_accepted, length_accepted, ← accepted_append sound]
      omega
    calc (pipe.write (front ++ back)).2
      _ = pipe.fill (front.take (pipe.accepted front) ++
            back.take ((pipe.write front).2.accepted back)) := by
        rw [write_snd, take_accepted_append sound]
      _ = (pipe.fill (front.take (pipe.accepted front))).fill
            (back.take ((pipe.write front).2.accepted back)) := (fill_fill sound fits).symm
      _ = ((pipe.write front).2.write back).2 := by rw [← write_snd, ← write_snd]

theorem read_add (sound : pipe.Sound) (first second : Nat) :
    pipe.read (first + second) =
      ((pipe.read first).1 ++ ((pipe.read first).2.read second).1,
        ((pipe.read first).2.read second).2) := by
  rw [read_eq sound, read_eq sound, read_eq (discard_sound sound first), contents_discard sound,
    discard_discard sound, List.take_add]

def writeEach (pipe : Pipe) : List Bytes → Nat × Pipe
  | [] => (0, pipe)
  | portion :: later =>
    let (count, between) := pipe.write portion
    let (more, after) := between.writeEach later
    (count + more, after)

def readEach (pipe : Pipe) : List Nat → Bytes × Pipe
  | [] => ([], pipe)
  | count :: later =>
    let (bytes, between) := pipe.read count
    let (more, after) := between.readEach later
    (bytes ++ more, after)

theorem writeEach_eq (sound : pipe.Sound) (portions : List Bytes) :
    pipe.writeEach portions = pipe.write portions.flatten := by
  induction portions generalizing pipe with
  | nil =>
    have nothing : pipe.accepted [] = 0 := by simp [accepted]
    exact Prod.ext ((write_fst _).trans nothing).symm (write_of_nothing nothing).symm
  | cons portion later ih =>
    rw [List.flatten_cons, write_append sound, ← ih (write_sound sound portion)]
    rfl

theorem readEach_eq (sound : pipe.Sound) (counts : List Nat) :
    pipe.readEach counts = pipe.read counts.sum := by
  induction counts generalizing pipe with
  | nil =>
    rw [List.sum_nil, read_eq sound, List.take_zero, discard_of_nothing (Nat.zero_min _)]
    rfl
  | cons count later ih =>
    have between : (pipe.read count).2.Sound := by
      rw [read_eq sound]
      exact discard_sound sound count
    rw [List.sum_cons, read_add sound, ← ih between]
    rfl

theorem foldl_discard (sound : pipe.Sound) (counts : List Nat) :
    counts.foldl discard pipe = pipe.discard counts.sum := by
  induction counts generalizing pipe with
  | nil => rw [List.foldl_nil, List.sum_nil, discard_of_nothing (Nat.zero_min _)]
  | cons count later ih =>
    rw [List.foldl_cons, ih (discard_sound sound count), discard_discard sound, List.sum_cons]

-- Equality of pipes is that of their cells, indices, totals and marks.
structure Portioned (pipe : Pipe) : Prop where
  write_two : ∀ front back,
    pipe.write (front ++ back) =
      ((pipe.write front).1 + ((pipe.write front).2.write back).1,
        ((pipe.write front).2.write back).2)
  read_two : ∀ first second,
    pipe.read (first + second) =
      ((pipe.read first).1 ++ ((pipe.read first).2.read second).1,
        ((pipe.read first).2.read second).2)
  discard_two : ∀ first second,
    pipe.discard (first + second) = (pipe.discard first).discard second
  write : ∀ data portions, portions.flatten = data → pipe.writeEach portions = pipe.write data
  read : ∀ count counts, counts.sum = count → pipe.readEach counts = pipe.read count
  discard : ∀ count (counts : List Nat), counts.sum = count →
    counts.foldl Pipe.discard pipe = pipe.discard count

namespace Workspace

theorem run_portioned {commands : List (String × Command)} {steps : List Step}
    (ran : empty.run commands = some steps) {spot : Place}
    (there : (empty.lastOf steps).pipeAt? spot = some pipe) : pipe.Portioned := by
  have sound := empty_allSound.run empty_consistent ran spot pipe there
  constructor
  case write_two => exact write_append sound
  case read_two => exact read_add sound
  case discard_two => exact fun first second => (discard_discard sound first second).symm
  case write => exact fun _ portions whole => whole ▸ writeEach_eq sound portions
  case read => exact fun _ counts whole => whole ▸ readEach_eq sound counts
  case discard => exact fun _ counts whole => whole ▸ foldl_discard sound counts

-- One byte is left in the third of four cells, so the second portion goes round the end and the last one is cut.
def advanced : List (String × Command) :=
  [("a", .create 4), ("a", .ask (.write [1, 2, 3])), ("a", .ask (.discard 2))]

theorem run_cut_portions : ∃ steps, ∃ pipe full : Pipe,
    empty.run advanced = some steps ∧
    (empty.lastOf steps).pipeAt? (.slot "a") = some pipe ∧
    pipe.head = 2 ∧ full.cells = [5, 6, 3, 4] ∧
    pipe.Portioned ∧
    pipe.write [4, 5, 6, 7, 8] = (3, full) ∧
    pipe.writeEach [[4], [], [5, 6, 7], [8]] = (3, full) ∧
    pipe.read 3 = pipe.readEach [1, 0, 2] := by
  obtain ⟨steps, ran⟩ : ∃ steps, empty.run advanced = some steps := ⟨_, rfl⟩
  obtain ⟨pipe, there⟩ : ∃ pipe, (empty.lastOf steps).pipeAt? (.slot "a") = some pipe := by
    cases ran
    exact ⟨_, rfl⟩
  have portioned := run_portioned ran there
  have written := portioned.write [4, 5, 6, 7, 8] [[4], [], [5, 6, 7], [8]] rfl
  have taken := (portioned.read 3 [1, 0, 2] rfl).symm
  cases ran
  cases there
  exact ⟨_, _, _, rfl, rfl, by decide, by decide, portioned, rfl, written, taken⟩

end Workspace

end Conduit.Pipe
