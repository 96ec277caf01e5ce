import Conduit.Channel.Config
import Conduit.Channel.Link
import Conduit.Channel.Outcome
import Conduit.Net.TransportError
import Conduit.Pipe.Cursor
set_option autoImplicit false

namespace Conduit

open Net (Address Operation TransportError)

inductive Dial (σ : Type)
  | connected (link : σ) (own peer : Address)
  | failed (fault : Fault)
  | silent

abbrev Network (σ : Type) := Address → Dial σ

def Network.behind {σ : Type} (route : Except Fault Unit) (network : Network σ) : Network σ :=
  fun address =>
    match route with
    | .ok () => network address
    | .error fault => .failed fault

inductive Direction
  | write
  | read
  | both
  deriving DecidableEq, Repr

namespace Direction

def writes : Direction → Bool
  | write | both => true
  | read => false

def reads : Direction → Bool
  | read | both => true
  | write => false

end Direction

structure Channel (σ : Type) where
  link : σ
  inbound : Pipe
  readLimit : Option Duration
  own : Address
  peer : Address
  writeClosed : Bool
  readClosed : Bool

namespace Channel

variable {σ : Type}

def zeroCapacityReason : String := "recv_capacity must be non-zero"

def ofLink (config : ChannelConfig) (link : σ) (own peer : Address) :
    Outcome TransportError (Channel σ) :=
  match Pipe.create config.recvCapacity.toNat with
  | .ok inbound =>
      .done {
        link, inbound, own, peer
        readLimit := config.readLimit
        writeClosed := false
        readClosed := false }
  | .error misuse => .crashed (misuse.message?.getD "")

def connect (network : Network σ) (address : Address) (config : ChannelConfig) :
    Outcome TransportError (Channel σ) :=
  if config.recvCapacity = 0 then .failed (.invalidConfig zeroCapacityReason)
  else
    match network address with
    | .connected link own peer => ofLink config link own peer
    | .failed fault => .failed (.io .connect fault)
    | .silent => .failed (.timedOut .connect config.connectLimit)

def atEnd (channel : Channel σ) : Bool := channel.inbound.atEnd

def received (channel : Channel σ) : UInt64 := channel.inbound.totalIn

def needsFill (channel : Channel σ) : Bool :=
  channel.inbound.isEmpty && !channel.inbound.ended

variable [Link σ]

def write (channel : Channel σ) (data : Bytes) : Outcome TransportError Nat × Channel σ :=
  if channel.writeClosed then (.failed (.closed .write), channel)
  else if data.isEmpty then (.done 0, channel)
  else
    match Link.send channel.link data with
    | (.taken, link) => (.done data.length, { channel with link })
    | (.failed fault, link) => (.failed (.io .write fault), { channel with link })
    | (.overdue, link) => (.stalled, { channel with link })

def fill (channel : Channel σ) : Outcome TransportError Unit × Channel σ :=
  match Link.receive channel.link channel.inbound.room with
  | (.bytes [], link) => (.done (), { channel with link, inbound := channel.inbound.finish })
  | (.bytes data, link) => (.done (), { channel with link, inbound := (channel.inbound.write data).2 })
  | (.failed fault, link) => (.failed (.io .read fault), { channel with link })
  | (.overdue, link) =>
      match channel.readLimit with
      | some limit => (.failed (.timedOut .read limit), { channel with link })
      | none => (.stalled, { channel with link })

def takeStaged (channel : Channel σ) : Bytes × Channel σ :=
  let (bytes, inbound) := channel.inbound.read channel.inbound.size
  (bytes, { channel with inbound })

def read (channel : Channel σ) : Outcome TransportError Bytes × Channel σ :=
  if channel.needsFill then
    match channel.fill with
    | (.done (), filled) =>
        let (bytes, after) := filled.takeStaged
        (.done bytes, after)
    | (.failed error, after) => (.failed error, after)
    | (.stalled, after) => (.stalled, after)
    | (.crashed message, after) => (.crashed message, after)
  else
    let (bytes, after) := channel.takeStaged
    (.done bytes, after)

/-- To close what is not connected any more is no failure. -/
def closing (outcome : Except Fault Unit) : Except TransportError Unit :=
  match outcome with
  | .ok () => .ok ()
  | .error fault => if fault.kind = .notConnected then .ok () else .error (.io .shutdown fault)

/-- The direction counts as closed from here on, whatever the link makes of it. -/
def closeWrite (channel : Channel σ) : Except TransportError Unit × Channel σ :=
  if channel.writeClosed then (.ok (), channel)
  else
    let (outcome, link) := Link.endSending channel.link
    (closing outcome, { channel with link, writeClosed := true })

/-- The staged input ends only if the link could be closed. -/
def closeRead (channel : Channel σ) : Except TransportError Unit × Channel σ :=
  if channel.readClosed then (.ok (), channel)
  else
    let (outcome, link) := Link.endReceiving channel.link
    let after := { channel with link, readClosed := true }
    match closing outcome with
    | .ok () => (.ok (), { after with inbound := after.inbound.finish })
    | .error error => (.error error, after)

/-- Writing is closed before reading, and a failure of the first leaves the second as it is. -/
def shutdown (channel : Channel σ) (direction : Direction) :
    Except TransportError Unit × Channel σ :=
  let (written, channel) := if direction.writes then channel.closeWrite else (.ok (), channel)
  match written with
  | .error error => (.error error, channel)
  | .ok () => if direction.reads then channel.closeRead else (.ok (), channel)

def close (channel : Channel σ) : Except TransportError Unit × Channel σ :=
  channel.shutdown .both

end Channel

end Conduit
