import Conduit.Pipe.Basic
set_option autoImplicit false

namespace Conduit.Pipe

attribute [ext] Pipe

theorem wrap_below {place capacity : Nat} (below : place < capacity) : place % capacity = place :=
  Nat.mod_eq_of_lt below

theorem wrap_above {place capacity : Nat} (above : capacity ≤ place)
    (once : place < capacity + capacity) : place % capacity = place - capacity := by
  rw [Nat.mod_eq_sub_mod above, Nat.mod_eq_of_lt (by omega)]

theorem length_lay (cells : Bytes) (start : Nat) (data : Bytes)
    (fits : start + data.length ≤ cells.length) : (lay cells start data).length = cells.length := by
  simp only [lay, List.length_append, List.length_take, List.length_drop]
  omega

theorem getElem?_lay (cells : Bytes) (start : Nat) (data : Bytes)
    (fits : start + data.length ≤ cells.length) (i : Nat) :
    (lay cells start data)[i]? =
      if start ≤ i ∧ i < start + data.length then data[i - start]? else cells[i]? := by
  have atStart : (cells.take start).length = start := by
    rw [List.length_take]
    omega
  unfold lay
  rw [List.append_assoc, List.getElem?_append, atStart]
  by_cases before : i < start
  next =>
    rw [if_pos before, if_neg (by omega), List.getElem?_take, if_pos before]
  next =>
    rw [if_neg before, List.getElem?_append]
    by_cases inside : i < start + data.length
    next => rw [if_pos (by omega), if_pos (by omega)]
    next =>
      rw [if_neg (by omega), if_neg (by omega), List.getElem?_drop]
      congr 1
      omega

variable {pipe : Pipe}

namespace Sound

theorem head_lt_capacity (sound : pipe.Sound) (some : 0 < pipe.capacity) :
    pipe.head < pipe.capacity := by
  have := sound.head_lt
  omega

theorem tail_lt_capacity (_ : pipe.Sound) (some : 0 < pipe.capacity) :
    pipe.tail < pipe.capacity :=
  Nat.mod_lt _ some

end Sound

theorem length_contents (sound : pipe.Sound) : pipe.contents.length = pipe.size := by
  have fits := sound.size_le
  have head := sound.head_lt
  simp only [contents, capacity, List.length_take, List.length_append, List.length_drop] at *
  omega

theorem getElem?_contents (sound : pipe.Sound) (i : Nat) :
    pipe.contents[i]? =
      if i < pipe.size then pipe.cells[(pipe.head + i) % pipe.capacity]? else none := by
  unfold contents
  rw [List.getElem?_take]
  by_cases held : i < pipe.size
  next =>
    have fits := sound.size_le
    have head := sound.head_lt_capacity (by omega)
    unfold capacity at *
    rw [if_pos held, if_pos held, List.getElem?_append, List.length_drop]
    by_cases below : pipe.head + i < pipe.cells.length
    next => rw [if_pos (by omega), List.getElem?_drop, wrap_below below]
    next =>
      rw [if_neg (by omega), List.getElem?_take, if_pos (by omega), wrap_above (by omega) (by omega)]
      congr 1
      omega
  next => rw [if_neg held, if_neg held]

theorem contents_eq_nil (nothing : pipe.size = 0) : pipe.contents = [] := by
  rw [contents, nothing, List.take_zero]

theorem empty_sound (capacity : Nat) : (empty capacity).Sound :=
  { size_le := Nat.zero_le _
    head_lt := .inr rfl
    head_eq := fun _ => rfl }

theorem contents_empty (capacity : Nat) : (empty capacity).contents = [] := contents_eq_nil rfl

theorem capacity_empty (capacity : Nat) : (empty capacity).capacity = capacity :=
  List.length_replicate

theorem segments_append (sound : pipe.Sound) (count : Nat) :
    (pipe.segments count).1 ++ (pipe.segments count).2 = pipe.contents.take count := by
  unfold segments
  by_cases nothing : min count pipe.size = 0
  next =>
    rw [if_pos nothing]
    symm
    rw [List.append_nil, List.take_eq_nil_iff, ← List.length_eq_zero_iff, length_contents sound]
    omega
  next =>
    rw [if_neg nothing, contents, List.take_take]
    have fits := sound.size_le
    have head := sound.head_lt_capacity (by omega)
    unfold capacity at *
    simp only
    rw [List.take_append, List.length_drop, List.take_take]
    congr 1
    next => rw [List.take_eq_take_iff, List.length_drop]; omega
    next => congr 1; omega

theorem length_segments (sound : pipe.Sound) (count : Nat) :
    (pipe.segments count).1.length = min (min count pipe.size) (pipe.capacity - pipe.head) ∧
      (pipe.segments count).2.length = min count pipe.size - (pipe.capacity - pipe.head) := by
  have fits := sound.size_le
  have head := sound.head_lt
  unfold segments capacity at *
  by_cases nothing : min count pipe.size = 0
  next => simp [nothing]
  next =>
    simp only [nothing, if_false, List.length_take, List.length_drop]
    omega

theorem peek_eq (sound : pipe.Sound) (count : Nat) : pipe.peek count = pipe.contents.take count :=
  segments_append sound count

theorem length_peek (sound : pipe.Sound) (count : Nat) :
    (pipe.peek count).length = min count pipe.size := by
  rw [peek_eq sound, List.length_take, length_contents sound]

theorem discard_of_nothing {count : Nat} (nothing : min count pipe.size = 0) :
    pipe.discard count = pipe := by
  simp only [discard, nothing, if_true]

@[simp] theorem cells_discard (count : Nat) : (pipe.discard count).cells = pipe.cells := by
  simp only [discard]
  split <;> rfl

@[simp] theorem capacity_discard (count : Nat) :
    (pipe.discard count).capacity = pipe.capacity := by
  rw [capacity, cells_discard, capacity]

@[simp] theorem size_discard (count : Nat) : (pipe.discard count).size = pipe.size - count := by
  simp only [discard]
  split
  next => omega
  next => exact Nat.sub_eq_of_eq_add (by omega)

@[simp] theorem ended_discard (count : Nat) : (pipe.discard count).ended = pipe.ended := by
  simp only [discard]
  split <;> rfl

@[simp] theorem totalIn_discard (count : Nat) : (pipe.discard count).totalIn = pipe.totalIn := by
  simp only [discard]
  split <;> rfl

theorem totalOut_discard (count : Nat) :
    (pipe.discard count).totalOut = pipe.totalOut + UInt64.ofNat (min count pipe.size) := by
  simp only [discard]
  split
  next nothing => rw [nothing]; exact (UInt64.add_zero _).symm
  next => rfl

theorem head_discard (sound : pipe.Sound) (count : Nat) :
    (pipe.discard count).head =
      if pipe.size ≤ count then 0 else (pipe.head + count) % pipe.capacity := by
  unfold discard
  by_cases nothing : min count pipe.size = 0
  next =>
    simp only [nothing, if_true]
    by_cases all : pipe.size ≤ count
    next => rw [if_pos all]; exact sound.head_eq (by omega)
    next =>
      have none : count = 0 := by omega
      have fits := sound.size_le
      have head := sound.head_lt_capacity (by omega)
      rw [if_neg all, none, Nat.add_zero, wrap_below head]
  next =>
    simp only [nothing, if_false]
    by_cases all : pipe.size ≤ count
    next => rw [if_pos all, if_pos (by omega)]
    next => rw [if_neg all, if_neg (by omega), Nat.min_eq_left (by omega)]

theorem discard_sound (sound : pipe.Sound) (count : Nat) : (pipe.discard count).Sound := by
  have fits := sound.size_le
  refine ⟨?_, ?_, ?_⟩
  next => rw [size_discard, capacity_discard]; omega
  next =>
    rw [head_discard sound, capacity_discard]
    by_cases all : pipe.size ≤ count
    next => exact .inr (if_pos all)
    next => rw [if_neg all]; exact .inl (Nat.mod_lt _ (by omega))
  next =>
    rw [size_discard, head_discard sound]
    exact fun none => if_pos (by omega)

theorem contents_discard (sound : pipe.Sound) (count : Nat) :
    (pipe.discard count).contents = pipe.contents.drop count := by
  apply List.ext_getElem?
  intro i
  rw [getElem?_contents (discard_sound sound count), List.getElem?_drop, getElem?_contents sound,
    size_discard, capacity_discard, cells_discard, head_discard sound]
  by_cases held : i < pipe.size - count
  next =>
    rw [if_pos held, if_neg (by omega), if_pos (by omega), Nat.mod_add_mod, Nat.add_assoc]
  next => rw [if_neg held, if_neg (by omega)]

theorem discard_discard (sound : pipe.Sound) (first second : Nat) :
    (pipe.discard first).discard second = pipe.discard (first + second) := by
  have middle := discard_sound sound first
  apply Pipe.ext
  case cells => simp only [cells_discard]
  case head =>
    rw [head_discard middle, head_discard sound, head_discard sound, size_discard, capacity_discard]
    -- A pipe that the first part empties starts again at the first cell, and the second part finds nothing.
    by_cases all : pipe.size ≤ first + second
    next => rw [if_pos (by omega), if_pos all]
    next =>
      rw [if_neg (by omega), if_neg (by omega), if_neg all, Nat.mod_add_mod, Nat.add_assoc]
  case size => rw [size_discard, size_discard, size_discard, Nat.sub_sub]
  case totalIn => simp only [totalIn_discard]
  case totalOut =>
    rw [totalOut_discard, totalOut_discard, totalOut_discard, size_discard, UInt64.add_assoc,
      ← UInt64.ofNat_add]
    congr 2
    omega
  case ended => simp only [ended_discard]

theorem discard_min (count : Nat) : pipe.discard (min count pipe.size) = pipe.discard count := by
  simp only [discard, Nat.min_assoc, Nat.min_self]

theorem read_eq (sound : pipe.Sound) (count : Nat) :
    pipe.read count = (pipe.contents.take count, pipe.discard count) := by
  rw [read, length_peek sound, peek_eq sound, discard_min]

theorem lay_lay (buffer front back : Bytes) :
    lay (lay buffer 0 front) front.length back =
      front ++ back ++ buffer.drop (front.length + back.length) := by
  have first : lay buffer 0 front = front ++ buffer.drop front.length := by
    rw [lay, List.take_zero, List.nil_append, Nat.zero_add]
  rw [first, lay, List.take_left, List.drop_append, List.drop_of_length_le (by omega),
    List.nil_append, Nat.add_sub_cancel_left, List.drop_drop]

theorem readInto_eq (sound : pipe.Sound) (buffer : Bytes) :
    pipe.readInto buffer =
      (min buffer.length pipe.size,
        pipe.contents.take buffer.length ++ buffer.drop (min buffer.length pipe.size),
        pipe.discard buffer.length) := by
  have runs := segments_append sound buffer.length
  have count := congrArg List.length runs
  rw [List.length_append, List.length_take, length_contents sound] at count
  simp only [readInto, lay_lay, runs, count, discard_min]

-- `data` goes behind the contents and is known to fit.
def fill (pipe : Pipe) (data : Bytes) : Pipe :=
  { pipe with
    cells := pipe.stored data
    size := pipe.size + data.length
    totalIn := pipe.totalIn + UInt64.ofNat data.length }

theorem stored_nil : pipe.stored [] = pipe.cells := by
  simp [stored, lay]

theorem fill_nil : pipe.fill [] = pipe := by
  rw [fill, stored_nil]
  exact congrArg (fun total => { pipe with totalIn := total }) (UInt64.add_zero _)

theorem getElem?_stored (data : Bytes) (sound : pipe.Sound) (some : 0 < pipe.capacity)
    (fits : pipe.size + data.length ≤ pipe.capacity) (i : Nat) :
    (pipe.stored data)[i]? =
      if i + pipe.capacity < pipe.tail + data.length then data[i + pipe.capacity - pipe.tail]?
      else if pipe.tail ≤ i ∧ i < pipe.tail + data.length then
        if i < pipe.capacity then data[i - pipe.tail]? else none
      else pipe.cells[i]? := by
  have tail := sound.tail_lt_capacity some
  unfold stored capacity at *
  have front : (data.take (min data.length (pipe.cells.length - pipe.tail))).length =
      min data.length (pipe.cells.length - pipe.tail) := by
    rw [List.length_take]
    omega
  have back : (data.drop (min data.length (pipe.cells.length - pipe.tail))).length =
      data.length - min data.length (pipe.cells.length - pipe.tail) := List.length_drop
  simp only
  rw [getElem?_lay _ _ _ (by rw [length_lay _ _ _ (by omega), back]; omega),
    getElem?_lay _ _ _ (by omega), front, back, List.getElem?_drop, List.getElem?_take]
  by_cases wrapped : i + pipe.cells.length < pipe.tail + data.length
  next =>
    rw [if_pos (by omega), if_pos wrapped]
    congr 1
    omega
  next =>
    rw [if_neg (by omega), if_neg wrapped]
    by_cases inside : pipe.tail ≤ i ∧ i < pipe.tail + data.length
    next =>
      by_cases low : i < pipe.cells.length
      next => rw [if_pos (by omega), if_pos (by omega), if_pos inside, if_pos low]
      next =>
        rw [if_neg (by omega), if_pos inside, if_neg low, List.getElem?_eq_none (by omega)]
    next => rw [if_neg (by omega), if_neg inside]

theorem length_stored (data : Bytes) (sound : pipe.Sound) (some : 0 < pipe.capacity)
    (fits : pipe.size + data.length ≤ pipe.capacity) :
    (pipe.stored data).length = pipe.capacity := by
  have tail := sound.tail_lt_capacity some
  unfold stored capacity at *
  have front : (data.take (min data.length (pipe.cells.length - pipe.tail))).length =
      min data.length (pipe.cells.length - pipe.tail) := by
    rw [List.length_take]
    omega
  simp only
  rw [length_lay _ _ _ (by rw [length_lay _ _ _ (by omega), List.length_drop]; omega),
    length_lay _ _ _ (by omega)]

section Fits

variable {data : Bytes}

theorem capacity_fill (sound : pipe.Sound) (fits : pipe.size + data.length ≤ pipe.capacity) :
    (pipe.fill data).capacity = pipe.capacity := by
  by_cases some : 0 < pipe.capacity
  next => exact length_stored data sound some fits
  next =>
    have nothing : data = [] := List.length_eq_zero_iff.mp (by omega)
    rw [nothing, fill_nil]

theorem fill_sound (sound : pipe.Sound) (fits : pipe.size + data.length ≤ pipe.capacity) :
    (pipe.fill data).Sound := by
  have same := capacity_fill sound fits
  refine ⟨same ▸ fits, same ▸ sound.head_lt, fun none => sound.head_eq ?_⟩
  exact Nat.eq_zero_of_add_eq_zero_right none

theorem contents_fill (sound : pipe.Sound) (fits : pipe.size + data.length ≤ pipe.capacity) :
    (pipe.fill data).contents = pipe.contents ++ data := by
  have cells : (pipe.fill data).cells = pipe.stored data := rfl
  have head : (pipe.fill data).head = pipe.head := rfl
  have size : (pipe.fill data).size = pipe.size + data.length := rfl
  have within := sound.head_lt
  apply List.ext_getElem?
  intro i
  rw [getElem?_contents (fill_sound sound fits), List.getElem?_append, length_contents sound,
    getElem?_contents sound, cells, head, size, capacity_fill sound fits]
  by_cases beyond : pipe.size + data.length ≤ i
  next =>
    rw [if_neg (by omega), if_neg (by omega), List.getElem?_eq_none (by omega)]
  next =>
    rw [if_pos (by omega), getElem?_stored _ sound (by omega) fits]
    have ends : pipe.tail = pipe.head + pipe.size ∧ pipe.head + pipe.size < pipe.capacity ∨
        pipe.tail + pipe.capacity = pipe.head + pipe.size := by
      by_cases low : pipe.head + pipe.size < pipe.capacity
      next => exact .inl ⟨wrap_below low, low⟩
      next =>
        refine .inr ?_
        rw [tail, wrap_above (by omega) (by omega)]
        omega
    have placed : (pipe.head + i) % pipe.capacity = pipe.head + i ∧
          pipe.head + i < pipe.capacity ∨
        (pipe.head + i) % pipe.capacity + pipe.capacity = pipe.head + i := by
      by_cases low : pipe.head + i < pipe.capacity
      next => exact .inl ⟨wrap_below low, low⟩
      next =>
        refine .inr ?_
        rw [wrap_above (by omega) (by omega)]
        omega
    generalize (pipe.head + i) % pipe.capacity = place at *
    by_cases held : i < pipe.size
    next =>
      rw [if_pos held, if_pos held, if_neg (by omega), if_neg (by omega)]
    next =>
      rw [if_neg held]
      by_cases wrapped : place + pipe.capacity < pipe.tail + data.length
      next =>
        rw [if_pos wrapped]
        congr 1
        omega
      next =>
        rw [if_neg wrapped, if_pos (by omega), if_pos (by omega)]
        congr 1
        omega

end Fits

theorem accepted_le_room (data : Bytes) : pipe.accepted data ≤ pipe.room := by
  unfold accepted
  split
  next => exact Nat.zero_le _
  next => exact Nat.min_le_right _ _

theorem accepted_add_size_le (sound : pipe.Sound) (data : Bytes) :
    pipe.accepted data + pipe.size ≤ pipe.capacity := by
  have accepted := pipe.accepted_le_room data
  have fits := sound.size_le
  unfold room at accepted
  omega

theorem accepted_le_length (data : Bytes) : pipe.accepted data ≤ data.length := by
  unfold accepted
  split
  next => exact Nat.zero_le _
  next => exact Nat.min_le_left _ _

theorem length_accepted (data : Bytes) :
    (data.take (pipe.accepted data)).length = pipe.accepted data := by
  have := pipe.accepted_le_length data
  rw [List.length_take]
  omega

theorem accepted_fits (sound : pipe.Sound) (data : Bytes) :
    pipe.size + (data.take (pipe.accepted data)).length ≤ pipe.capacity := by
  rw [length_accepted, Nat.add_comm]
  exact accepted_add_size_le sound data

theorem write_eq (data : Bytes) :
    pipe.write data = (pipe.accepted data, pipe.fill (data.take (pipe.accepted data))) := by
  unfold write
  by_cases nothing : pipe.accepted data = 0
  next => simp only [nothing, if_true, List.take_zero, fill_nil]
  next => simp only [nothing, if_false, fill, length_accepted]

theorem write_fst (data : Bytes) : (pipe.write data).1 = pipe.accepted data := by
  rw [write_eq]

theorem write_snd (data : Bytes) :
    (pipe.write data).2 = pipe.fill (data.take (pipe.accepted data)) := by
  rw [write_eq]

@[simp] theorem size_write (data : Bytes) :
    (pipe.write data).2.size = pipe.size + pipe.accepted data := by
  rw [write_snd, fill, length_accepted]

@[simp] theorem ended_write (data : Bytes) : (pipe.write data).2.ended = pipe.ended := by
  rw [write_snd, fill]

@[simp] theorem totalOut_write (data : Bytes) :
    (pipe.write data).2.totalOut = pipe.totalOut := by
  rw [write_snd, fill]

theorem totalIn_write (data : Bytes) :
    (pipe.write data).2.totalIn = pipe.totalIn + UInt64.ofNat (pipe.accepted data) := by
  rw [write_snd, fill, length_accepted]

theorem write_of_nothing {data : Bytes} (nothing : pipe.accepted data = 0) :
    (pipe.write data).2 = pipe := by
  rw [write_snd, nothing, List.take_zero, fill_nil]

theorem capacity_write (sound : pipe.Sound) (data : Bytes) :
    (pipe.write data).2.capacity = pipe.capacity := by
  rw [write_snd, capacity_fill sound (accepted_fits sound data)]

theorem room_write (sound : pipe.Sound) (data : Bytes) :
    (pipe.write data).2.room = pipe.room - pipe.accepted data := by
  rw [room, capacity_write sound, size_write, room, Nat.sub_sub]

theorem write_sound (sound : pipe.Sound) (data : Bytes) : (pipe.write data).2.Sound := by
  rw [write_snd]
  exact fill_sound sound (accepted_fits sound data)

theorem contents_write (sound : pipe.Sound) (data : Bytes) :
    (pipe.write data).2.contents = pipe.contents ++ data.take (pipe.accepted data) := by
  rw [write_snd, contents_fill sound (accepted_fits sound data)]

theorem finish_sound (sound : pipe.Sound) : pipe.finish.Sound :=
  ⟨sound.size_le, sound.head_lt, sound.head_eq⟩

theorem atEnd_iff (sound : pipe.Sound) :
    pipe.atEnd = true ↔ pipe.ended = true ∧ pipe.contents = [] := by
  rw [atEnd, Bool.and_eq_true, ← List.length_eq_zero_iff, length_contents sound, isEmpty,
    beq_iff_eq]

end Conduit.Pipe
