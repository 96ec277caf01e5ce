import Conduit.Pipe.Lemmas
import Conduit.Pipe.Request
set_option autoImplicit false

namespace Conduit.Pipe

structure Queue where
  capacity : Nat
  held : Bytes
  ended : Bool
  written : Nat
  taken : Nat
  deriving DecidableEq, Repr

inductive Call
  | write (data : Bytes)
  | finish
  | peek (count : Nat)
  | segments (count : Nat)
  | discard (count : Nat)
  | read (count : Nat)
  | readInto (buffer : Bytes)
  deriving DecidableEq, Repr

def Call.request : Call → Request
  | write data => .write data
  | finish => .finish
  | peek count => .peek count
  | segments count => .segments count
  | discard count => .discard count
  | read count => .read count
  | readInto buffer => .readInto buffer

-- A queue has no cells, so of two runs of cells only their bytes count.
def Reply.joined : Reply → Reply
  | runs front back => bytes (front ++ back)
  | other => other

def Call.accepted : Call → Reply → Bytes
  | write data, .count count => data.take count
  | _, _ => []

def intake (calls : List Call) (replies : List Reply) : Bytes :=
  (List.zipWith Call.accepted calls replies).flatten

structure View where
  capacity : Nat
  size : Nat
  room : Nat
  isEmpty : Bool
  ended : Bool
  atEnd : Bool
  totalIn : UInt64
  totalOut : UInt64
  deriving DecidableEq, Repr

def view (pipe : Pipe) : View :=
  { capacity := pipe.capacity
    size := pipe.size
    room := pipe.room
    isEmpty := pipe.isEmpty
    ended := pipe.ended
    atEnd := pipe.atEnd
    totalIn := pipe.totalIn
    totalOut := pipe.totalOut }

def serve (pipe : Pipe) : List Call → List Reply × Pipe
  | [] => ([], pipe)
  | call :: later =>
    let (reply, after) := pipe.answer .whole call.request
    let (replies, last) := after.serve later
    (reply :: replies, last)

namespace Queue

def empty (capacity : Nat) : Queue :=
  { capacity
    held := []
    ended := false
    written := 0
    taken := 0 }

def view (queue : Queue) : View :=
  { capacity := queue.capacity
    size := queue.held.length
    room := queue.capacity - queue.held.length
    isEmpty := queue.held.isEmpty
    ended := queue.ended
    atEnd := queue.ended && queue.held.isEmpty
    totalIn := .ofNat queue.written
    totalOut := .ofNat queue.taken }

def write (queue : Queue) (data : Bytes) : Nat × Queue :=
  if queue.ended then (0, queue)
  else
    let count := min (queue.capacity - queue.held.length) data.length
    (count,
      { queue with
        held := queue.held ++ data.take count
        written := queue.written + count })

def front (queue : Queue) (count : Nat) : Bytes := queue.held.take (min count queue.held.length)

def discard (queue : Queue) (count : Nat) : Queue :=
  { queue with
    held := queue.held.drop (min count queue.held.length)
    taken := queue.taken + min count queue.held.length }

def answer (queue : Queue) : Call → Reply × Queue
  | .write data =>
      let (count, after) := queue.write data
      (.count count, after)
  | .finish => (.done, { queue with ended := true })
  | .peek count | .segments count => (.bytes (queue.front count), queue)
  | .discard count => (.done, queue.discard count)
  | .read count => (.bytes (queue.front count), queue.discard count)
  | .readInto buffer =>
      let bytes := queue.front buffer.length
      (.filled bytes.length (bytes ++ buffer.drop bytes.length), queue.discard buffer.length)

def serve (queue : Queue) : List Call → List Reply × Queue
  | [] => ([], queue)
  | call :: later =>
    let (reply, after) := queue.answer call
    let (replies, last) := after.serve later
    (reply :: replies, last)

structure Carries (queue : Queue) (stream : Bytes) : Prop where
  fits : queue.held.length ≤ queue.capacity
  held_eq : queue.held = stream.drop queue.taken
  written_eq : queue.written = stream.length
  taken_le : queue.taken ≤ stream.length

theorem front_eq (queue : Queue) (count : Nat) : queue.front count = queue.held.take count := by
  rw [front, ← List.take_take, List.take_length]

theorem length_front (queue : Queue) (count : Nat) :
    (queue.front count).length = min count queue.held.length := by
  rw [front_eq, List.length_take]

theorem held_discard (queue : Queue) (count : Nat) :
    (queue.discard count).held = queue.held.drop count := by
  by_cases within : count ≤ queue.held.length
  next => rw [discard, Nat.min_eq_left within]
  next =>
    rw [discard, Nat.min_eq_right (by omega), List.drop_length, List.drop_eq_nil_of_le (by omega)]

theorem empty_carries (capacity : Nat) : (empty capacity).Carries [] :=
  { fits := Nat.zero_le _
    held_eq := rfl
    written_eq := rfl
    taken_le := Nat.le_refl _ }

namespace Carries

variable {queue : Queue} {stream : Bytes}

theorem length_held (carries : queue.Carries stream) :
    queue.held.length = stream.length - queue.taken := by
  rw [carries.held_eq, List.length_drop]

theorem written (carries : queue.Carries stream) :
    queue.written = queue.taken + queue.held.length := by
  have le := carries.taken_le
  rw [carries.written_eq, carries.length_held]
  omega

theorem write (carries : queue.Carries stream) (data : Bytes) :
    (queue.write data).2.Carries (stream ++ data.take (queue.write data).1) := by
  have fits := carries.fits
  have le := carries.taken_le
  unfold Queue.write
  split
  next => simpa using carries
  next =>
    constructor
    case fits => simp only [List.length_append, List.length_take]; omega
    case held_eq =>
      simp only
      rw [List.drop_append_of_le_length le, carries.held_eq]
    case written_eq =>
      simp only [List.length_append, List.length_take, carries.written_eq]
      omega
    case taken_le => simp only [List.length_append]; omega

theorem discard (carries : queue.Carries stream) (count : Nat) :
    (queue.discard count).Carries stream := by
  have fits := carries.fits
  have le := carries.taken_le
  have length := carries.length_held
  constructor
  case fits => simp only [Queue.discard, List.length_drop]; omega
  case held_eq => simp only [Queue.discard, carries.held_eq, List.drop_drop]
  case written_eq => exact carries.written_eq
  case taken_le => simp only [Queue.discard]; omega

theorem finish (carries : queue.Carries stream) :
    { queue with ended := true }.Carries stream :=
  ⟨carries.fits, carries.held_eq, carries.written_eq, carries.taken_le⟩

theorem answer (carries : queue.Carries stream) (call : Call) :
    (queue.answer call).2.Carries (stream ++ call.accepted (queue.answer call).1) := by
  cases call with
  | write data => exact carries.write data
  | finish => simpa [Call.accepted, Queue.answer] using carries.finish
  | peek count | segments count => simpa [Call.accepted, Queue.answer] using carries
  | discard count | read count => simpa [Call.accepted, Queue.answer] using carries.discard count
  | readInto buffer => simpa [Call.accepted, Queue.answer] using carries.discard buffer.length

theorem serve (carries : queue.Carries stream) (calls : List Call) :
    (queue.serve calls).2.Carries (stream ++ intake calls (queue.serve calls).1) := by
  induction calls generalizing queue stream with
  | nil => simpa [intake, Queue.serve] using carries
  | cons call later ih =>
    have next := ih (carries.answer call)
    rw [List.append_assoc] at next
    exact next

end Carries

end Queue

/-- The ring holds the bytes of the queue; the cells that hold none of them may hold anything. -/
structure Represents (pipe : Pipe) (queue : Queue) : Prop where
  sound : pipe.Sound
  capacity_eq : pipe.capacity = queue.capacity
  contents_eq : pipe.contents = queue.held
  ended_eq : pipe.ended = queue.ended
  totalIn_eq : pipe.totalIn = .ofNat queue.written
  totalOut_eq : pipe.totalOut = .ofNat queue.taken

theorem empty_represents (capacity : Nat) : (empty capacity).Represents (.empty capacity) :=
  { sound := empty_sound capacity
    capacity_eq := capacity_empty capacity
    contents_eq := contents_empty capacity
    ended_eq := rfl
    totalIn_eq := rfl
    totalOut_eq := rfl }

namespace Represents

variable {pipe : Pipe} {queue : Queue}

theorem size_eq (represents : pipe.Represents queue) : pipe.size = queue.held.length := by
  rw [← represents.contents_eq, length_contents represents.sound]

theorem accepted_eq (represents : pipe.Represents queue) (data : Bytes) :
    pipe.accepted data = (queue.write data).1 := by
  rw [accepted, room, represents.ended_eq, represents.capacity_eq, represents.size_eq, Queue.write]
  split
  next => rfl
  next => exact Nat.min_comm _ _

theorem view_eq (represents : pipe.Represents queue) : pipe.view = queue.view := by
  have empty : pipe.isEmpty = queue.held.isEmpty := by
    rw [isEmpty, represents.size_eq]
    cases queue.held <;> rfl
  simp only [Pipe.view, Queue.view, room, atEnd, represents.capacity_eq, represents.size_eq, empty,
    represents.ended_eq, represents.totalIn_eq, represents.totalOut_eq]

theorem write (represents : pipe.Represents queue) (data : Bytes) :
    (pipe.write data).2.Represents (queue.write data).2 := by
  have count := represents.accepted_eq data
  have sound := represents.sound
  have held := contents_write sound data
  have total := pipe.totalIn_write data
  -- Pipe and queue accept the same count, so they go on with the same bytes and totals.
  rw [count, represents.contents_eq] at held
  rw [count, represents.totalIn_eq, ← UInt64.ofNat_add] at total
  constructor
  case sound => exact write_sound sound data
  case capacity_eq =>
    rw [capacity_write sound, represents.capacity_eq, Queue.write]
    split <;> rfl
  case contents_eq =>
    rw [held, Queue.write]
    split
    next => simp
    next => rfl
  case ended_eq =>
    rw [ended_write, represents.ended_eq, Queue.write]
    split <;> rfl
  case totalIn_eq =>
    rw [total, Queue.write]
    split <;> rfl
  case totalOut_eq =>
    rw [totalOut_write, represents.totalOut_eq, Queue.write]
    split <;> rfl

theorem discard (represents : pipe.Represents queue) (count : Nat) :
    (pipe.discard count).Represents (queue.discard count) := by
  have sound := represents.sound
  constructor
  case sound => exact discard_sound sound count
  case capacity_eq => rw [capacity_discard, represents.capacity_eq, Queue.discard]
  case contents_eq => rw [contents_discard sound, represents.contents_eq, Queue.held_discard]
  case ended_eq => rw [ended_discard, represents.ended_eq, Queue.discard]
  case totalIn_eq => rw [totalIn_discard, represents.totalIn_eq, Queue.discard]
  case totalOut_eq =>
    rw [totalOut_discard, represents.totalOut_eq, represents.size_eq, ← UInt64.ofNat_add]
    rfl

theorem finish (represents : pipe.Represents queue) :
    pipe.finish.Represents { queue with ended := true } :=
  { represents with
    sound := finish_sound represents.sound
    ended_eq := rfl }

theorem peek_eq (represents : pipe.Represents queue) (count : Nat) :
    pipe.peek count = queue.front count := by
  rw [Pipe.peek_eq represents.sound, represents.contents_eq, Queue.front_eq]

theorem answer (represents : pipe.Represents queue) (call : Call) :
    (pipe.answer .whole call.request).1.joined = (queue.answer call).1 ∧
      (pipe.answer .whole call.request).2.Represents (queue.answer call).2 := by
  have sound := represents.sound
  -- What a pipe hands out is a prefix of its contents, wherever in the ring they stand.
  cases call with
  | write data =>
    refine ⟨?_, represents.write data⟩
    show Reply.count (pipe.write data).1 = .count (queue.write data).1
    rw [write_fst, represents.accepted_eq]
  | finish => exact ⟨rfl, represents.finish⟩
  | peek count =>
    refine ⟨?_, represents⟩
    show Reply.bytes (pipe.peek count) = _
    rw [represents.peek_eq]
    rfl
  | segments count =>
    refine ⟨?_, represents⟩
    show Reply.bytes ((pipe.segments count).1 ++ (pipe.segments count).2) = _
    rw [segments_append sound, represents.contents_eq, ← Queue.front_eq]
    rfl
  | discard count => exact ⟨rfl, represents.discard count⟩
  | read count =>
    have read := read_eq sound count
    rw [represents.contents_eq, ← Queue.front_eq] at read
    simp only [Call.request, Pipe.answer, read]
    exact ⟨rfl, represents.discard count⟩
  | readInto buffer =>
    have read := readInto_eq sound buffer
    rw [represents.contents_eq, ← Queue.front_eq, represents.size_eq, ← Queue.length_front] at read
    simp only [Call.request, Pipe.answer, read]
    exact ⟨rfl, represents.discard buffer.length⟩

theorem serve (represents : pipe.Represents queue) (calls : List Call) :
    (pipe.serve calls).1.map Reply.joined = (queue.serve calls).1 ∧
      (pipe.serve calls).2.Represents (queue.serve calls).2 := by
  induction calls generalizing pipe queue with
  | nil => exact ⟨rfl, represents⟩
  | cons call later ih =>
    obtain ⟨reply, after⟩ := represents.answer call
    obtain ⟨replies, last⟩ := ih after
    refine ⟨?_, last⟩
    simp only [Pipe.serve, Queue.serve, List.map_cons, reply, replies]

end Represents

theorem intake_joined (calls : List Call) (replies : List Reply) :
    intake calls (replies.map Reply.joined) = intake calls replies := by
  have same (call : Call) (reply : Reply) : call.accepted reply.joined = call.accepted reply := by
    cases call <;> cases reply <;> rfl
  simp only [intake, List.zipWith_map_right, same]

/-- Every run of calls on a new pipe is a run of calls on an empty queue: the same replies, and the same
to be seen after it. What is in the pipe is what was written less what was taken. -/
theorem create_serve_eq_queue (capacity : Nat) (below : capacity < capacityLimit)
    (calls : List Call) :
    ∃ pipe replies last queue,
      create capacity = .ok pipe ∧
      pipe.serve calls = (replies, last) ∧
      (Queue.empty capacity).serve calls = (replies.map Reply.joined, queue) ∧
      last.view = queue.view ∧
      last.contents = (intake calls replies).drop queue.taken ∧
      last.totalIn - last.totalOut = .ofNat last.size ∧
      last.size ≤ last.capacity := by
  obtain ⟨replies, represents⟩ := (empty_represents capacity).serve calls
  have carries := (Queue.empty_carries capacity).serve calls
  rw [← replies, intake_joined, List.nil_append] at carries
  refine ⟨_, _, _, _, create_eq_ok_iff.2 ⟨below, rfl⟩, rfl, Prod.ext replies.symm rfl,
    represents.view_eq, ?_, ?_, represents.sound.size_le⟩
  next => rw [represents.contents_eq, carries.held_eq]
  next =>
    rw [represents.totalIn_eq, represents.totalOut_eq, represents.size_eq, carries.written,
      Nat.add_comm, UInt64.ofNat_add, UInt64.add_sub_cancel]

def aroundRing : List Call :=
  [ .write [1, 2, 3, 4], .discard 2, .write [5, 6, 7], .segments 9, .read 1, .finish, .write [8],
    .readInto [0, 0, 0, 0] ]

theorem serve_around_ring :
    3 < capacityLimit ∧ ∃ pipe replies last,
      create 3 = .ok pipe ∧
      pipe.serve aroundRing = (replies, last) ∧
      replies.map Reply.joined =
        [ .count 3, .done, .count 2, .bytes [3, 5, 6], .bytes [3], .done, .count 0,
          .filled 2 [5, 6, 0, 0] ] ∧
      last.contents = (intake aroundRing replies).drop 5 := by
  obtain ⟨pipe, replies, last, queue, created, served, queued, -, contents, -, -⟩ :=
    create_serve_eq_queue 3 (by decide) aroundRing
  obtain ⟨same, rfl⟩ := Prod.mk.inj queued
  exact ⟨by decide, pipe, replies, last, created, served, same.symm, contents⟩

end Conduit.Pipe
