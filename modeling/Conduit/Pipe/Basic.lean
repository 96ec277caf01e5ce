set_option autoImplicit false

/-!
A pipe is a bounded first-in first-out queue of bytes kept in a ring of cells. Writing takes what fits,
reading takes what is there, and the writing side may declare that nothing more will come. `Pipe.contents`
is the view of a pipe as the list of its buffered bytes, and `Pipe.Sound` what every operation keeps of the
ring's indices.
-/

namespace Conduit

abbrev Bytes := List UInt8

structure Pipe where
  cells : Bytes
  head : Nat
  size : Nat
  totalIn : UInt64
  totalOut : UInt64
  ended : Bool
  deriving DecidableEq, Repr

namespace Pipe

/-- No ring has this many cells. -/
def capacityLimit : Nat := 9223372036854775808

def empty (capacity : Nat) : Pipe :=
  { cells := List.replicate capacity 0
    head := 0
    size := 0
    totalIn := 0
    totalOut := 0
    ended := false }

def create? (capacity : Nat) : Option Pipe :=
  if capacity < capacityLimit then some (empty capacity) else none

def capacity (pipe : Pipe) : Nat := pipe.cells.length

def room (pipe : Pipe) : Nat := pipe.capacity - pipe.size

def isEmpty (pipe : Pipe) : Bool := pipe.size == 0

def atEnd (pipe : Pipe) : Bool := pipe.ended && pipe.isEmpty

def tail (pipe : Pipe) : Nat := (pipe.head + pipe.size) % pipe.capacity

def contents (pipe : Pipe) : Bytes :=
  (pipe.cells.drop pipe.head ++ pipe.cells.take pipe.head).take pipe.size

structure Sound (pipe : Pipe) : Prop where
  size_le : pipe.size ≤ pipe.capacity
  head_lt : pipe.head < pipe.capacity ∨ pipe.head = 0
  head_eq : pipe.size = 0 → pipe.head = 0

def lay (cells : Bytes) (start : Nat) (data : Bytes) : Bytes :=
  cells.take start ++ data ++ cells.drop (start + data.length)

/-- The cells once `data` follows the buffered bytes; what does not fit before the end of the ring goes
to its start. -/
def stored (pipe : Pipe) (data : Bytes) : Bytes :=
  let first := min data.length (pipe.capacity - pipe.tail)
  lay (lay pipe.cells pipe.tail (data.take first)) 0 (data.drop first)

def accepted (pipe : Pipe) (data : Bytes) : Nat :=
  if pipe.ended then 0 else min data.length pipe.room

def write (pipe : Pipe) (data : Bytes) : Nat × Pipe :=
  let count := pipe.accepted data
  if count = 0 then (0, pipe)
  else
    (count,
      { pipe with
        cells := pipe.stored (data.take count)
        size := pipe.size + count
        totalIn := pipe.totalIn + UInt64.ofNat count })

/-- The first `count` buffered bytes in two runs of cells; the second is empty unless they pass the end
of the ring. -/
def segments (pipe : Pipe) (count : Nat) : Bytes × Bytes :=
  let visible := min count pipe.size
  if visible = 0 then ([], [])
  else
    let first := min visible (pipe.capacity - pipe.head)
    ((pipe.cells.drop pipe.head).take first, pipe.cells.take (visible - first))

def peek (pipe : Pipe) (count : Nat) : Bytes :=
  let (front, back) := pipe.segments count
  front ++ back

/-- Drops the first `count` buffered bytes. A pipe that runs empty starts again at the first cell. -/
def discard (pipe : Pipe) (count : Nat) : Pipe :=
  let removed := min count pipe.size
  if removed = 0 then pipe
  else
    { pipe with
      head := if pipe.size - removed = 0 then 0 else (pipe.head + removed) % pipe.capacity
      size := pipe.size - removed
      totalOut := pipe.totalOut + UInt64.ofNat removed }

def read (pipe : Pipe) (count : Nat) : Bytes × Pipe :=
  let bytes := pipe.peek count
  (bytes, pipe.discard bytes.length)

def readInto (pipe : Pipe) (buffer : Bytes) : Nat × Bytes × Pipe :=
  let (front, back) := pipe.segments buffer.length
  let count := front.length + back.length
  (count, lay (lay buffer 0 front) front.length back, pipe.discard count)

def finish (pipe : Pipe) : Pipe := { pipe with ended := true }

end Pipe

end Conduit
