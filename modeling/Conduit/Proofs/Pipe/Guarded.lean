import Conduit.Pipe.Lemmas
import Conduit.Pipe.Request
set_option autoImplicit false

namespace Conduit.Pipe

inductive Trap
  | overflow
  | underflow
  | zeroDivisor
  | outOfBounds
  | lengthsDiffer
  | tooLarge
  | misuse (problem : Misuse)
  deriving DecidableEq, Repr

namespace Guarded

def wordLimit : Nat := 18446744073709551616

def add (a b : Nat) : Except Trap Nat := if a + b < wordLimit then .ok (a + b) else .error .overflow

def sub (a b : Nat) : Except Trap Nat := if b ≤ a then .ok (a - b) else .error .underflow

def rem (a b : Nat) : Except Trap Nat := if b = 0 then .error .zeroDivisor else .ok (a % b)

def slice (bytes : Bytes) (start stop : Nat) : Except Trap Bytes :=
  if start ≤ stop ∧ stop ≤ bytes.length then .ok ((bytes.drop start).take (stop - start))
  else .error .outOfBounds

def copy (bytes : Bytes) (start stop : Nat) (data : Bytes) : Except Trap Bytes := do
  let place ← slice bytes start stop
  if place.length = data.length then .ok (lay bytes start data) else .error .lengthsDiffer

def reserve (size : Nat) : Except Trap Unit :=
  if size < capacityLimit then .ok () else .error .tooLarge

theorem ok_bind {α β : Type} (value : α) (next : α → Except Trap β) : (Except.ok value >>= next) = next value :=
  rfl

theorem error_bind {α β : Type} (trap : Trap) (next : α → Except Trap β) :
    (Except.error trap >>= next) = .error trap := rfl

section

variable {a b start stop : Nat} {bytes data : Bytes}

theorem add_eq (fits : a + b < wordLimit) : add a b = .ok (a + b) := if_pos fits

theorem sub_eq (le : b ≤ a) : sub a b = .ok (a - b) := if_pos le

theorem le_of_sub {difference : Nat} (left : sub a b = .ok difference) : b ≤ a ∧ difference = a - b := by
  unfold sub at left
  split at left
  next le =>
    cases left
    exact ⟨le, rfl⟩
  next => cases left

theorem rem_eq (some : 0 < b) : rem a b = .ok (a % b) := if_neg (Nat.ne_of_gt some)

theorem slice_eq (start_le : start ≤ stop) (stop_le : stop ≤ bytes.length) :
    slice bytes start stop = .ok ((bytes.drop start).take (stop - start)) :=
  if_pos ⟨start_le, stop_le⟩

theorem slice_to_end (within : start ≤ bytes.length) : slice bytes start bytes.length = .ok (bytes.drop start) := by
  rw [slice_eq within (Nat.le_refl _), ← List.length_drop, List.take_length]

theorem slice_from_start (within : stop ≤ bytes.length) : slice bytes 0 stop = .ok (bytes.take stop) :=
  slice_eq (Nat.zero_le _) within

theorem length_of_slice (cut : slice bytes start stop = .ok data) :
    start ≤ stop ∧ data.length = stop - start := by
  unfold slice at cut
  split at cut
  next inside =>
    cases cut
    rw [List.length_take, List.length_drop]
    omega
  next => cases cut

theorem copy_eq (start_le : start ≤ stop) (stop_le : stop ≤ bytes.length) (same : stop - start = data.length) :
    copy bytes start stop data = .ok (lay bytes start data) := by
  have length : ((bytes.drop start).take (stop - start)).length = data.length := by
    rw [List.length_take, List.length_drop]
    omega
  rw [copy, slice_eq start_le stop_le, ok_bind, if_pos length]

theorem reserve_eq {size : Nat} (fits : size < capacityLimit) : reserve size = .ok () := if_pos fits

end

def room (pipe : Pipe) : Except Trap Nat := sub pipe.capacity pipe.size

def store (pipe : Pipe) (data : Bytes) (accepted : Nat) : Except Trap Bytes := do
  let tail ← rem (← add pipe.head pipe.size) pipe.capacity
  let first := min accepted (← sub pipe.capacity tail)
  let cells ← copy pipe.cells tail (← add tail first) (← slice data 0 first)
  let wrapped ← sub accepted first
  if 0 < wrapped then do copy cells 0 wrapped (← slice data first accepted) else .ok cells

def write (pipe : Pipe) (data : Bytes) : Except Trap (Nat × Pipe) :=
  if pipe.ended then .ok (0, pipe)
  else do
    let accepted := min data.length (← room pipe)
    if accepted = 0 then .ok (0, pipe)
    else do
      let cells ← store pipe data accepted
      let size ← add pipe.size accepted
      .ok (accepted, { pipe with cells, size, totalIn := pipe.totalIn + UInt64.ofNat accepted })

def segments (pipe : Pipe) (count : Nat) : Except Trap (Bytes × Bytes) :=
  let visible := min count pipe.size
  if visible = 0 then .ok ([], [])
  else do
    let first := min visible (← sub pipe.capacity pipe.head)
    let front ← slice pipe.cells pipe.head (← add pipe.head first)
    let back ← slice pipe.cells 0 (← sub visible first)
    .ok (front, back)

def peek (pipe : Pipe) (count : Nat) : Except Trap Bytes := do
  let (front, back) ← segments pipe count
  if front.isEmpty then .ok []
  else do
    reserve (← add front.length back.length)
    .ok (front ++ back)

def discard (pipe : Pipe) (count : Nat) : Except Trap Pipe :=
  let removed := min count pipe.size
  if removed = 0 then .ok pipe
  else do
    let size ← sub pipe.size removed
    let head ← if size = 0 then .ok 0 else do rem (← add pipe.head removed) pipe.capacity
    .ok { pipe with head, size, totalOut := pipe.totalOut + UInt64.ofNat removed }

def read (pipe : Pipe) (count : Nat) : Except Trap (Bytes × Pipe) := do
  let bytes ← peek pipe count
  let rest ← discard pipe bytes.length
  .ok (bytes, rest)

def readInto (pipe : Pipe) (buffer : Bytes) : Except Trap (Nat × Bytes × Pipe) := do
  let (front, back) ← segments pipe buffer.length
  let count ← add front.length back.length
  let buffer ← copy buffer 0 front.length front
  let buffer ← copy buffer front.length count back
  let rest ← discard pipe count
  .ok (count, buffer, rest)

/-- A sound ring that a machine has room for. -/
structure Safe (pipe : Pipe) : Prop extends pipe.Sound where
  bounded : pipe.capacity < capacityLimit

variable {pipe : Pipe}

theorem Safe.write (safe : Safe pipe) (data : Bytes) : Safe (pipe.write data).2 :=
  { write_sound safe.toSound data with bounded := capacity_write safe.toSound data ▸ safe.bounded }

theorem Safe.discard (safe : Safe pipe) (count : Nat) : Safe (pipe.discard count) :=
  { discard_sound safe.toSound count with bounded := (capacity_discard count).symm ▸ safe.bounded }

theorem room_eq (safe : Safe pipe) : room pipe = .ok pipe.room := sub_eq safe.size_le

theorem sum_fits {a b : Nat} (safe : Safe pipe) (first : a ≤ pipe.capacity)
    (second : b ≤ pipe.capacity) : a + b < wordLimit := by
  have bounded : pipe.capacity < 9223372036854775808 := safe.bounded
  unfold wordLimit
  omega

theorem segments_eq (safe : Safe pipe) (count : Nat) :
    segments pipe count = .ok (pipe.segments count) := by
  unfold segments Pipe.segments
  by_cases nothing : min count pipe.size = 0
  next => simp only [nothing, if_true]
  next =>
    have fits := safe.size_le
    have head := safe.toSound.head_lt_capacity (by omega)
    have sum := sum_fits (a := pipe.head) (b := min (min count pipe.size) (pipe.capacity - pipe.head)) safe
      (by omega) (by omega)
    simp only [nothing, if_false, sub_eq (Nat.le_of_lt head), ok_bind, add_eq sum]
    unfold capacity at *
    rw [slice_eq (by omega) (by omega), ok_bind, sub_eq (by omega), ok_bind,
      slice_eq (by omega) (by omega), ok_bind]
    simp only [Nat.add_sub_cancel_left, List.drop_zero, Nat.sub_zero]

theorem peek_eq (safe : Safe pipe) (count : Nat) :
    peek pipe count = .ok (pipe.peek count) := by
  have fits := safe.size_le
  obtain ⟨first, second⟩ := length_segments safe.toSound count
  rw [peek, segments_eq safe, ok_bind, Pipe.peek]
  generalize pipe.segments count = runs at *
  obtain ⟨front, back⟩ := runs
  simp only at first second ⊢
  cases front with
  | nil =>
    -- The second run has something only if the first one has.
    have nothing : back = [] := by
      have head := safe.head_lt
      rw [List.length_nil] at first
      exact List.length_eq_zero_iff.mp (by omega)
    rw [nothing]
    rfl
  | cons byte more =>
    have sum : (byte :: more).length + back.length ≤ pipe.capacity := by omega
    have bounded := safe.bounded
    rw [add_eq (sum_fits safe (by omega) (by omega)), ok_bind, reserve_eq (by omega)]
    rfl

theorem discard_eq (safe : Safe pipe) (count : Nat) :
    discard pipe count = .ok (pipe.discard count) := by
  unfold discard Pipe.discard
  by_cases nothing : min count pipe.size = 0
  next => simp only [nothing, if_true]
  next =>
    have fits := safe.size_le
    have head := safe.toSound.head_lt_capacity (by omega)
    have sum := sum_fits (a := pipe.head) (b := min count pipe.size) safe (by omega) (by omega)
    simp only [nothing, if_false, sub_eq (Nat.min_le_right count pipe.size), ok_bind]
    by_cases emptied : pipe.size - min count pipe.size = 0
    next => simp only [emptied, if_true]
    next => simp only [emptied, if_false, add_eq sum, ok_bind, rem_eq (Nat.zero_lt_of_lt head)]

-- On a ring that is not sound the machine does break off.
example : discard { empty 0 with size := 2 } 1 = .error .zeroDivisor := rfl

theorem read_eq (safe : Safe pipe) (count : Nat) :
    read pipe count = .ok (pipe.read count) := by
  rw [read, peek_eq safe, ok_bind, discard_eq safe, ok_bind]
  rfl

theorem readInto_eq (safe : Safe pipe) (buffer : Bytes) :
    readInto pipe buffer = .ok (pipe.readInto buffer) := by
  have fits := safe.size_le
  obtain ⟨first, second⟩ := length_segments safe.toSound buffer.length
  rw [readInto, segments_eq safe, ok_bind, Pipe.readInto]
  generalize pipe.segments buffer.length = runs at *
  obtain ⟨front, back⟩ := runs
  simp only at first second ⊢
  have laid : (lay buffer 0 front).length = buffer.length := length_lay _ _ _ (by omega)
  rw [add_eq (sum_fits safe (by omega) (by omega)), ok_bind, copy_eq (by omega) (by omega) (by omega), ok_bind,
    copy_eq (by omega) (by omega) (by omega), ok_bind, discard_eq safe, ok_bind]

theorem store_eq (safe : Safe pipe) {data : Bytes} {accepted : Nat}
    (some : 0 < accepted) (enough : accepted ≤ data.length) (fits : pipe.size + accepted ≤ pipe.capacity) :
    store pipe data accepted = .ok (pipe.stored (data.take accepted)) := by
  have head := safe.toSound.head_lt_capacity (by omega)
  have tail := safe.toSound.tail_lt_capacity (by omega)
  have ring : pipe.cells.length = pipe.capacity := rfl
  have length : (data.take accepted).length = accepted := by
    rw [List.length_take]
    omega
  unfold store stored
  rw [length, add_eq (sum_fits safe (by omega) (by omega)), ok_bind, rem_eq (by omega), ok_bind,
    ← Pipe.tail, sub_eq (by omega), ok_bind]
  generalize least : min accepted (pipe.capacity - pipe.tail) = first
  have front : (data.take first).length = first := by
    rw [List.length_take]
    omega
  have front_eq : (data.take accepted).take first = data.take first := by
    rw [List.take_take, Nat.min_eq_left (by omega)]
  have laid : (lay pipe.cells pipe.tail (data.take first)).length = pipe.capacity :=
    length_lay _ _ _ (by omega)
  simp only
  rw [add_eq (sum_fits safe (by omega) (by omega)), ok_bind, slice_eq (by omega) (by omega), ok_bind,
    Nat.sub_zero, List.drop_zero, copy_eq (by omega) (by omega) (by omega), ok_bind, sub_eq (by omega), ok_bind,
    front_eq]
  by_cases wraps : 0 < accepted - first
  next =>
    have back : (data.take accepted).drop first = (data.drop first).take (accepted - first) := List.drop_take ..
    have back_length : ((data.take accepted).drop first).length = accepted - first := by
      rw [List.length_drop, length]
    rw [if_pos wraps, slice_eq (by omega) (by omega), ok_bind, ← back,
      copy_eq (by omega) (by omega) (by omega)]
  next =>
    -- What does not wrap leaves the start of the ring as it is.
    have nothing : (data.take accepted).drop first = [] := List.drop_eq_nil_of_le (by omega)
    rw [if_neg wraps, nothing]
    simp [lay]

theorem write_eq (safe : Safe pipe) (data : Bytes) :
    write pipe data = .ok (pipe.write data) := by
  unfold write Pipe.write accepted
  cases ended : pipe.ended with
  | true => rfl
  | false =>
    simp only [room_eq safe, ok_bind, Bool.false_eq_true, if_false]
    by_cases nothing : min data.length pipe.room = 0
    next => simp only [nothing, if_true]
    next =>
      have fits := safe.size_le
      have within : pipe.size + min data.length pipe.room ≤ pipe.capacity := by
        unfold Pipe.room
        omega
      simp only [nothing, if_false]
      rw [store_eq safe (by omega) (Nat.min_le_left _ _) within, ok_bind,
        add_eq (sum_fits safe fits (by omega)), ok_bind]

end Guarded

end Conduit.Pipe
