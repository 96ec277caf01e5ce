import Conduit.Pipe.Cursor
import Conduit.Pipe.Device
import Conduit.Pipe.Display
import Conduit.Pipe.Event
set_option autoImplicit false

namespace Conduit.Pipe

open Text (Layout)

inductive Request
  | write (data : Bytes)
  | finish
  | peek (count : Nat)
  | discard (count : Nat)
  | read (count : Nat)
  | describe (layout : Layout)
  | segments (count : Nat)
  | readInto (buffer : Bytes)
  | tryWrite (data : Bytes)
  | writeAll (data : Bytes)
  | flush
  | tryRead (buffer : Bytes)
  | readExact (buffer : Bytes)
  | readToEnd
  | remaining
  | chunk
  | chunks (slots : Nat)
  | advance (count : Nat)
  | takeBytes (count : Nat)
  | takeNumber (format : NumberFormat)
  deriving DecidableEq, Repr

inductive Holder
  | whole
  | half (side : End)
  deriving DecidableEq, Repr

def Request.permitted : Holder → Request → Bool
  | .whole, _ => true
  | .half .sending, request =>
      match request with
      | write _ | finish | describe _ => true
      | _ => false
  | .half .receiving, request =>
      match request with
      | peek _ | discard _ | read _ | describe _ => true
      | _ => false

inductive Reply
  | done
  | count (count : Nat)
  | bytes (bytes : Bytes)
  | runs (front back : Bytes)
  | filled (count : Nat) (buffer : Bytes)
  | text (text : String)
  | chunks (chunks : List Bytes)
  | number (value : Int)
  | succeeded
  | wrote (count : Nat)
  | received (count : Nat) (buffer : Bytes)
  | exactly (bytes : Bytes)
  | drained (outcome : Drained)
  | fault (fault : Fault)
  | misuse (misuse : Misuse)
  | reunited
  | foreignHalves
  deriving DecidableEq, Repr

def refuseMisuse {α : Type} (pipe : Pipe) (outcome : Except Misuse α)
    (success : α → Reply × Pipe) : Reply × Pipe :=
  match outcome with
  | .ok value => success value
  | .error problem => (.misuse problem, pipe)

def describeFor (pipe : Pipe) (layout : Layout) : Holder → String
  | .whole => pipe.describe layout
  | .half side => pipe.describeEnd side layout

def answer (pipe : Pipe) (holder : Holder) : Request → Reply × Pipe
  | .write data =>
      let (count, rest) := pipe.write data
      (.count count, rest)
  | .finish => (.done, pipe.finish)
  | .peek count => (.bytes (pipe.peek count), pipe)
  | .discard count => (.done, pipe.discard count)
  | .read count =>
      let (bytes, rest) := pipe.read count
      (.bytes bytes, rest)
  | .describe layout => (.text (pipe.describeFor layout holder), pipe)
  | .segments count =>
      let (front, back) := pipe.segments count
      (.runs front back, pipe)
  | .readInto buffer =>
      let (count, filled, rest) := pipe.readInto buffer
      (.filled count filled, rest)
  | .tryWrite data =>
      match pipe.tryWrite data with
      | (.ok count, rest) => (.wrote count, rest)
      | (.error fault, rest) => (.fault fault, rest)
  | .writeAll data =>
      match pipe.writeAll data with
      | (.ok (), rest) => (.succeeded, rest)
      | (.error fault, rest) => (.fault fault, rest)
  | .flush =>
      match pipe.flush with
      | .ok () => (.succeeded, pipe)
      | .error fault => (.fault fault, pipe)
  | .tryRead buffer =>
      match pipe.tryRead buffer with
      | (.ok count, filled, rest) => (.received count filled, rest)
      | (.error fault, _, rest) => (.fault fault, rest)
  | .readExact buffer =>
      match pipe.readExact buffer with
      | (.ok bytes, rest) => (.exactly bytes, rest)
      | (.error fault, rest) => (.fault fault, rest)
  | .readToEnd =>
      let (outcome, rest) := pipe.readToEnd
      (.drained outcome, rest)
  | .remaining => (.count pipe.size, pipe)
  | .chunk => (.bytes pipe.chunk, pipe)
  | .chunks slots => (.chunks (pipe.chunks slots), pipe)
  | .advance count => pipe.refuseMisuse (pipe.advance count) fun rest => (.done, rest)
  | .takeBytes count => pipe.refuseMisuse (pipe.takeBytes count) fun (bytes, rest) => (.bytes bytes, rest)
  | .takeNumber format =>
      pipe.refuseMisuse (pipe.takeNumber format) fun (value, rest) => (.number value, rest)

/-- Only plain writes and ends are reported: a device write checks for the end itself. -/
def events (pipe : Pipe) : Request → List Event
  | .write data => pipe.writeEvents data
  | .finish => pipe.finishEvents
  | _ => []

end Conduit.Pipe
