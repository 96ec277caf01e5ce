import Conduit.Duration
import Conduit.Text.Record
set_option autoImplicit false

namespace Conduit

structure ChannelConfig where
  recvCapacity : UInt64
  connectMillis : UInt64
  readMillis : Option UInt64
  deriving DecidableEq, Repr

namespace ChannelConfig

def default : ChannelConfig :=
  { recvCapacity := 65536
    connectMillis := 10000
    readMillis := none }

def withRecvCapacity (config : ChannelConfig) (capacity : UInt64) : ChannelConfig :=
  { config with recvCapacity := capacity }

def withConnectLimit (config : ChannelConfig) (limit : Duration) : ChannelConfig :=
  { config with connectMillis := limit.toMillis }

def withReadLimit (config : ChannelConfig) (limit : Option Duration) : ChannelConfig :=
  { config with readMillis := limit.map Duration.toMillis }

def connectLimit (config : ChannelConfig) : Duration := .ofMillis config.connectMillis

def readLimit (config : ChannelConfig) : Option Duration := config.readMillis.map Duration.ofMillis

def optionText : Option UInt64 → String
  | some value => s!"Some({value.toNat})"
  | none => "None"

def record (config : ChannelConfig) : Text.Record :=
  { name := "ChannelConfig"
    fields :=
      [ ("recv_capacity", toString config.recvCapacity.toNat),
        ("connect_timeout_ms", toString config.connectMillis.toNat),
        ("read_timeout_ms", optionText config.readMillis) ]
    complete := true }

end ChannelConfig

inductive ConfigChange
  | recvCapacity (capacity : UInt64)
  | connectLimit (limit : Duration)
  | readLimit (limit : Option Duration)
  deriving DecidableEq

def ConfigChange.apply (config : ChannelConfig) : ConfigChange → ChannelConfig
  | recvCapacity capacity => config.withRecvCapacity capacity
  | connectLimit limit => config.withConnectLimit limit
  | readLimit limit => config.withReadLimit limit

end Conduit
