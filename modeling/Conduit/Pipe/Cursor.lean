import Conduit.Pipe.Basic
set_option autoImplicit false

namespace Conduit.Pipe

inductive Misuse
  | capacityOverflow
  | advancePast (asked held : Nat)
  | shortRead
  deriving DecidableEq, Repr

def Misuse.message? : Misuse → Option String
  | capacityOverflow => some "capacity overflow"
  | advancePast asked held =>
      some s!"cannot advance past the buffered bytes: {asked} > {held}"
  | shortRead => none

def create (capacity : Nat) : Except Misuse Pipe :=
  match create? capacity with
  | some pipe => .ok pipe
  | none => .error .capacityOverflow

theorem create_eq_ok_iff {capacity : Nat} {pipe : Pipe} :
    create capacity = .ok pipe ↔ capacity < capacityLimit ∧ pipe = empty capacity := by
  by_cases below : capacity < capacityLimit <;> simp [create, create?, below, eq_comm]

def chunk (pipe : Pipe) : Bytes := (pipe.segments pipe.size).1

def chunks (pipe : Pipe) (slots : Nat) : List Bytes :=
  let (front, back) := pipe.segments pipe.size
  ([front, back].takeWhile (!·.isEmpty)).take slots

def advance (pipe : Pipe) (count : Nat) : Except Misuse Pipe :=
  if count ≤ pipe.size then .ok (pipe.discard count)
  else .error (.advancePast count pipe.size)

def gather (pipe : Pipe) (count : Nat) : Bytes × Pipe :=
  let piece := pipe.chunk.take count
  if _taken : piece.length = 0 then ([], pipe)
  else
    let (more, rest) := (pipe.discard piece.length).gather (count - piece.length)
    (piece ++ more, rest)
  termination_by count
  decreasing_by simp only [piece, List.length_take] at *; omega

def takeBytes (pipe : Pipe) (count : Nat) : Except Misuse (Bytes × Pipe) :=
  if count ≤ pipe.size then .ok (pipe.gather count)
  else .error .shortRead

inductive ByteOrder
  | bigEndian
  | littleEndian
  deriving DecidableEq, Repr

structure NumberFormat where
  width : Nat
  signed : Bool
  order : ByteOrder
  deriving DecidableEq, Repr

def bigEndianValue (bytes : Bytes) : Nat :=
  bytes.foldl (fun value byte => value * 256 + byte.toNat) 0

def littleEndianValue (bytes : Bytes) : Nat :=
  bytes.foldr (fun byte value => byte.toNat + 256 * value) 0

namespace NumberFormat

def magnitude (format : NumberFormat) (bytes : Bytes) : Nat :=
  match format.order with
  | .bigEndian => bigEndianValue bytes
  | .littleEndian => littleEndianValue bytes

def decode (format : NumberFormat) (bytes : Bytes) : Int :=
  let value := format.magnitude bytes
  if format.signed then Int.bmod value (Nat.pow 256 format.width) else value

end NumberFormat

/-- Decodes from the current chunk if it is long enough, and from bytes gathered over chunks if not. -/
def takeNumber (pipe : Pipe) (format : NumberFormat) : Except Misuse (Int × Pipe) :=
  if pipe.size < format.width then .error .shortRead
  else if format.width ≤ pipe.chunk.length then
    .ok (format.decode (pipe.chunk.take format.width), pipe.discard format.width)
  else
    let (bytes, rest) := pipe.gather format.width
    .ok (format.decode bytes, rest)

end Conduit.Pipe
