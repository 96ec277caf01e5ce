import Conduit.Channel.Basic
import Conduit.Channel.Wire
set_option autoImplicit false

namespace Conduit.Channel

open Net (TransportError)

inductive Action
  | read
  | write (data : Bytes)
  | shutdown (direction : Direction)
  | close
  deriving DecidableEq, Repr

inductive Reply
  | bytes (data : Bytes)
  | count (count : Nat)
  | closed
  | failed (error : TransportError)
  | stalled
  | crashed (message : String)
  deriving DecidableEq

namespace Reply

def ofOutcome {α : Type} (success : α → Reply) : Outcome TransportError α → Reply
  | .done value => success value
  | .failed error => failed error
  | .stalled => stalled
  | .crashed message => crashed message

def ofClosing : Except TransportError Unit → Reply
  | .ok () => closed
  | .error error => failed error

end Reply

def act {σ : Type} [Link σ] (channel : Channel σ) : Action → Reply × Channel σ
  | .read =>
      let (outcome, after) := channel.read
      (.ofOutcome .bytes outcome, after)
  | .write data =>
      let (outcome, after) := channel.write data
      (.ofOutcome .count outcome, after)
  | .shutdown direction =>
      let (outcome, after) := channel.shutdown direction
      (.ofClosing outcome, after)
  | .close =>
      let (outcome, after) := channel.close
      (.ofClosing outcome, after)

def run {σ : Type} [Link σ] : Channel σ → List Action → List (Reply × Channel σ)
  | _, [] => []
  | channel, action :: later =>
      let (reply, after) := channel.act action
      (reply, after) :: run after later

inductive Turn
  | holder (action : Action)
  | peer (action : PeerAction)
  deriving DecidableEq, Repr

inductive Result
  | reply (reply : Reply)
  | seen (data : Option Bytes)
  deriving DecidableEq

def turn (channel : Channel Wire) : Turn → Result × Channel Wire
  | .holder action =>
      let (reply, after) := channel.act action
      (.reply reply, after)
  | .peer action =>
      let (seen, link) := channel.link.peer action
      (.seen seen, { channel with link })

def converse : Channel Wire → List Turn → List (Result × Channel Wire)
  | _, [] => []
  | channel, turn :: later =>
      let (result, after) := channel.turn turn
      (result, after) :: converse after later

end Conduit.Channel
