import Conduit.Fault
import Conduit.Pipe.Basic
set_option autoImplicit false

namespace Conduit.Pipe

def tryRead (pipe : Pipe) (buffer : Bytes) : Except Fault Nat × Bytes × Pipe :=
  if buffer.isEmpty || pipe.atEnd then (.ok 0, buffer, pipe)
  else if pipe.isEmpty then (.error (.plain .wouldBlock), buffer, pipe)
  else
    let (count, filled, rest) := pipe.readInto buffer
    (.ok count, filled, rest)

def inputEndedFault : Fault := .described .brokenPipe "byte stream input already ended"

def tryWrite (pipe : Pipe) (data : Bytes) : Except Fault Nat × Pipe :=
  if pipe.ended then (.error inputEndedFault, pipe)
  else if data.isEmpty then (.ok 0, pipe)
  else
    match pipe.write data with
    | (0, rest) => (.error (.plain .wouldBlock), rest)
    | (count, rest) => (.ok count, rest)

def flush (_ : Pipe) : Except Fault Unit := .ok ()

def nothingWrittenFault : Fault := .described .writeZero "failed to write whole buffer"

def writeAll (pipe : Pipe) (data : Bytes) : Except Fault Unit × Pipe :=
  match data with
  | [] => (.ok (), pipe)
  | byte :: more =>
    match pipe.tryWrite (byte :: more) with
    | (.error fault, rest) => (.error fault, rest)
    | (.ok 0, rest) => (.error nothingWrittenFault, rest)
    | (.ok (count + 1), rest) => rest.writeAll (more.drop count)
  termination_by data.length
  decreasing_by simp only [List.length_cons, List.length_drop]; omega

def endedEarlyFault : Fault := .described .unexpectedEnd "failed to fill whole buffer"

/-- Reads until `buffer` is full. Bytes taken before a failure are lost. -/
def readExact (pipe : Pipe) (buffer : Bytes) : Except Fault Bytes × Pipe :=
  match buffer with
  | [] => (.ok [], pipe)
  | byte :: more =>
    match pipe.tryRead (byte :: more) with
    | (.error fault, _, rest) => (.error fault, rest)
    | (.ok 0, _, rest) => (.error endedEarlyFault, rest)
    | (.ok (count + 1), filled, rest) =>
      match rest.readExact (more.drop count) with
      | (.error fault, final) => (.error fault, final)
      | (.ok bytes, final) => (.ok (filled.take (count + 1) ++ bytes), final)
  termination_by buffer.length
  decreasing_by simp only [List.length_cons, List.length_drop]; omega

def drainBuffer : Bytes := List.replicate 32 0

structure Drained where
  bytes : Bytes
  fault : Option Fault
  deriving DecidableEq, Repr

def drain : Nat → Pipe → Drained × Pipe
  | 0, pipe => (⟨[], none⟩, pipe)
  | calls + 1, pipe =>
    match pipe.tryRead drainBuffer with
    | (.error fault, _, rest) => (⟨[], some fault⟩, rest)
    | (.ok 0, _, rest) => (⟨[], none⟩, rest)
    | (.ok (count + 1), filled, rest) =>
      let (more, final) := drain calls rest
      (⟨filled.take (count + 1) ++ more.bytes, more.fault⟩, final)

/-- Every read that is not the last takes a byte, so there are at most `size + 1` of them. -/
def readToEnd (pipe : Pipe) : Drained × Pipe := drain (pipe.size + 1) pipe

end Conduit.Pipe
