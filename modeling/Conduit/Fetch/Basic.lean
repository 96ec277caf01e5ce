import Conduit.Channel.Basic
import Conduit.Fetch.Request
import Conduit.Fetch.Sink
import Conduit.Net.Lookup
set_option autoImplicit false

namespace Conduit.Fetch

open Net (Address Resolver TransportError)

inductive FetchError
  | transport (error : TransportError)
  | output (fault : Fault)
  deriving DecidableEq

namespace FetchError

def message : FetchError → String
  | transport error => error.message
  | output fault => s!"failed to write response: {fault.message}"

def source? : FetchError → Option Fault
  | transport error => error.source?
  | output fault => some fault

end FetchError

structure Target where
  host : String
  path : String
  service : String
  deriving DecidableEq, Repr

structure Report (σ ω : Type) where
  outcome : Outcome FetchError UInt64
  asked : List String
  dialled : List Address
  channel : Option (Channel σ)
  sink : ω

section

variable {σ ω : Type} [Link σ] [Sink ω]

def pump : (reads : Nat) → UInt64 → Channel σ → ω → Outcome FetchError UInt64 × Channel σ × ω
  | 0, _, channel, sink => (.stalled, channel, sink)
  | reads + 1, copied, channel, sink =>
      if channel.atEnd then (.done copied, channel, sink)
      else
        match channel.read with
        | (.done chunk, channel) =>
            match Sink.writeAll sink chunk with
            | (.ok (), sink) => pump reads (copied + UInt64.ofNat chunk.length) channel sink
            | (.error fault, sink) => (.failed (.output fault), channel, sink)
        | (.failed error, channel) => (.failed (.transport error), channel, sink)
        | (.stalled, channel) => (.stalled, channel, sink)
        | (.crashed message, channel) => (.crashed message, channel, sink)

/-- Every read but the last brings a byte; one more look finds the end. -/
def pumpAll (channel : Channel σ) (sink : ω) : Outcome FetchError UInt64 × Channel σ × ω :=
  pump (Link.pending channel.link + 2) 0 channel sink

def conclude (copied : UInt64) (channel : Channel σ) (sink : ω) :
    Outcome FetchError UInt64 × Channel σ × ω :=
  match Sink.flush sink with
  | (.error fault, sink) => (.failed (.output fault), channel, sink)
  | (.ok (), sink) =>
      match channel.close with
      | (.ok (), channel) => (.done copied, channel, sink)
      | (.error error, channel) => (.failed (.transport error), channel, sink)

def deliver (channel : Channel σ) (sink : ω) : Outcome FetchError UInt64 × Channel σ × ω :=
  match pumpAll channel sink with
  | (.done copied, channel, sink) => conclude copied channel sink
  | unfinished => unfinished

def exchange (target : Target) (channel : Channel σ) (sink : ω) :
    Outcome FetchError UInt64 × Channel σ × ω :=
  match channel.write (requestText target.host target.path).toUTF8.toList with
  | (.done _, channel) => deliver channel sink
  | (.failed error, channel) => (.failed (.transport error), channel, sink)
  | (.stalled, channel) => (.stalled, channel, sink)
  | (.crashed message, channel) => (.crashed message, channel, sink)

def called (config : ChannelConfig) (address : Address) : List Address :=
  if config.recvCapacity = 0 then [] else [address]

def fetch (resolver : Resolver) (network : Network σ) (config : ChannelConfig) (target : Target)
    (sink : ω) : Report σ ω :=
  let lookup := Net.resolve resolver target.host target.service
  match lookup.outcome with
  | .error error => ⟨.failed (.transport error), lookup.asked, [], none, sink⟩
  | .ok address =>
      let dialled := called config address
      match Channel.connect network address config with
      | .done channel =>
          let (outcome, channel, sink) := exchange target channel sink
          ⟨outcome, lookup.asked, dialled, some channel, sink⟩
      | .failed error => ⟨.failed (.transport error), lookup.asked, dialled, none, sink⟩
      | .stalled => ⟨.stalled, lookup.asked, dialled, none, sink⟩
      | .crashed message => ⟨.crashed message, lookup.asked, dialled, none, sink⟩

end

end Conduit.Fetch
