import Conduit.Pipe.Basic
set_option autoImplicit false

namespace Conduit

inductive Severity
  | warning
  | detail
  deriving DecidableEq, Repr

inductive Pipe.Event
  | inputEnded (buffered : Nat) (totalIn : UInt64)
  | lateWrite (offered : Nat)
  deriving DecidableEq, Repr

namespace Pipe.Event

def severity : Event → Severity
  | inputEnded _ _ => .detail
  | lateWrite _ => .warning

def message : Event → String
  | inputEnded _ _ => "byte stream input ended"
  | lateWrite _ => "write after end_input refused; stream input already ended"

end Pipe.Event

namespace Pipe

def writeEvents (pipe : Pipe) (data : Bytes) : List Event :=
  if pipe.ended then [.lateWrite data.length] else []

def finishEvents (pipe : Pipe) : List Event :=
  if pipe.ended then [] else [.inputEnded pipe.size pipe.totalIn]

end Pipe

end Conduit
