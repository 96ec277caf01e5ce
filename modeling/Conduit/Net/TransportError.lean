import Conduit.Duration
import Conduit.Fault
import Conduit.Net.Address
import Conduit.Net.Service
set_option autoImplicit false

namespace Conduit.Net

structure Operation where
  code : String
  label : String
  deriving DecidableEq, Repr

namespace Operation

def resolve : Operation := ⟨"sponge.transport.resolve_failed", "resolve"⟩

def connect : Operation := ⟨"sponge.transport.tcp.connect_failed", "tcp connect"⟩

def read : Operation := ⟨"sponge.transport.tcp.read_failed", "tcp read"⟩

def write : Operation := ⟨"sponge.transport.tcp.write_failed", "tcp write"⟩

def shutdown : Operation := ⟨"sponge.transport.tcp.shutdown_failed", "tcp shutdown"⟩

end Operation

inductive TransportError
  | io (operation : Operation) (cause : Fault)
  | unresolved (host service : String) (cause : Fault)
  | noAddress (host service : String)
  | unknownService (service : String)
  | invalidAddress (text : String)
  | notIpv4 (address : Address)
  | timedOut (operation : Operation) (limit : Duration)
  | closed (operation : Operation)
  | invalidConfig (reason : String)
  deriving DecidableEq

inductive Category
  | retryable (pause : Duration)
  | nonRetryable
  | timeout
  deriving DecidableEq

def Category.ofFault (fault : Fault) : Category :=
  match fault.kind with
  | .timedOut => timeout
  | .wouldBlock | .interrupted => retryable (.ofMillis 5)
  | .connectionRefused | .connectionReset | .connectionAborted | .notConnected | .addressInUse
  | .addressNotAvailable | .brokenPipe => retryable (.ofMillis 50)
  | .writeZero => retryable (.ofMillis 10)
  | _ => nonRetryable

namespace TransportError

def message : TransportError → String
  | io operation cause => s!"{operation.label}: {cause.message}"
  | unresolved host service cause => s!"resolve({host}, {service}): {cause.message}"
  | noAddress host service =>
      s!"resolve({host}, {service}) returned successfully but with no results"
  | unknownService service => "unknown service `" ++ service ++ "`"
  | invalidAddress text => "invalid numeric address `" ++ text ++ "`"
  | notIpv4 address => s!"ipv4_numeric called on non-IPv4 address {address.text}"
  | timedOut operation limit => s!"{operation.label} timed out after {limit.text}"
  | closed operation => s!"{operation.label}: channel already closed"
  | invalidConfig reason => s!"invalid channel config: {reason}"

def code : TransportError → String
  | io operation _ | timedOut operation _ | closed operation => operation.code
  | unresolved _ _ _ | noAddress _ _ => Operation.resolve.code
  | unknownService _ => "sponge.transport.unknown_service"
  | invalidAddress _ => "sponge.transport.invalid_address"
  | notIpv4 _ => "sponge.transport.not_ipv4"
  | invalidConfig _ => "sponge.transport.invalid_config"

def category : TransportError → Category
  | io _ cause | unresolved _ _ cause => .ofFault cause
  | timedOut _ _ => .timeout
  | noAddress _ _ | unknownService _ | invalidAddress _ | notIpv4 _ | closed _
  | invalidConfig _ => .nonRetryable

def source? : TransportError → Option Fault
  | io _ cause | unresolved _ _ cause => some cause
  | _ => none

end TransportError

namespace Address

def parse (ip : String) (port : UInt16) : Except TransportError Address :=
  match ofText? ip port with
  | some address => .ok address
  | none => .error (.invalidAddress ip)

def ipv4Number (address : Address) : Except TransportError UInt32 :=
  match address.ipv4Number? with
  | some n => .ok n
  | none => .error (.notIpv4 address)

end Address

def servicePort (service : String) : Except TransportError UInt16 :=
  match servicePort? service with
  | some port => .ok port
  | none => .error (.unknownService service)

end Conduit.Net
