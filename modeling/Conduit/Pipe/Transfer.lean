import Conduit.Pipe.Basic
set_option autoImplicit false

namespace Conduit.Pipe

/-- The pieces are what the reads brought, latest first. -/
structure Transfer where
  pending : Bytes
  producing : Bool
  pipe : Pipe
  pieces : List Bytes
  finished : Bool
  deriving DecidableEq, Repr

namespace Transfer

def start (pipe : Pipe) (payload : Bytes) : Transfer :=
  { pending := payload
    producing := true
    pipe
    pieces := []
    finished := false }

def received (transfer : Transfer) : Bytes := transfer.pieces.reverse.flatten

def produce (transfer : Transfer) (chunk : Nat) : Transfer :=
  if !transfer.producing then transfer
  else if transfer.pending.isEmpty then
    { transfer with producing := false, pipe := transfer.pipe.finish }
  else
    let (count, pipe) := transfer.pipe.write (transfer.pending.take chunk)
    { transfer with pending := transfer.pending.drop count, pipe }

def check (transfer : Transfer) : Transfer :=
  { transfer with finished := transfer.finished || transfer.pipe.atEnd }

def collect (transfer : Transfer) (chunk : Nat) : Transfer :=
  let (bytes, pipe) := transfer.pipe.read chunk
  { transfer with pieces := bytes :: transfer.pieces, pipe }

theorem received_collect (transfer : Transfer) (chunk : Nat) :
    (transfer.collect chunk).received = transfer.received ++ transfer.pipe.peek chunk := by
  show (transfer.pipe.peek chunk :: transfer.pieces).reverse.flatten = _
  rw [List.reverse_cons, List.flatten_append, List.flatten_cons, List.flatten_nil, List.append_nil,
    received]

def consume (transfer : Transfer) (chunk : Nat) : Transfer :=
  let checked := transfer.check
  if checked.finished then checked else checked.collect chunk

def measure (transfer : Transfer) : Nat := 2 * transfer.pending.length + transfer.pipe.size

def rounds (writeChunk readChunk : Nat) : Nat → Transfer → Transfer
  | 0, transfer => transfer
  | count + 1, transfer =>
      let next := (transfer.produce writeChunk).consume readChunk
      if next.finished then next else rounds writeChunk readChunk count next

/-- Every round moves something as long as there is something to move; one more ends the input, and one
more sees the end. -/
def run (transfer : Transfer) (writeChunk readChunk : Nat) : Transfer :=
  rounds writeChunk readChunk (transfer.measure + 2) transfer

end Transfer

end Conduit.Pipe
