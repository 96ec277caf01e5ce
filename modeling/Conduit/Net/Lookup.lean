import Conduit.Net.TransportError
set_option autoImplicit false

namespace Conduit.Net

abbrev Resolver := String → Except Fault (List Host)

inductive NameFailure
  | unknownName
  | tryAgain
  | unrecoverable
  deriving DecidableEq, Repr

def NameFailure.reason : NameFailure → String
  | unknownName => "Name or service not known"
  | tryAgain => "Temporary failure in name resolution"
  | unrecoverable => "Non-recoverable failure in name resolution"

def NameFailure.fault (failure : NameFailure) : Fault :=
  .described .uncategorized ("failed to lookup address information: " ++ failure.reason)

structure Lookup (α : Type) where
  asked : List String
  outcome : Except TransportError α

def lookupHost (resolver : Resolver) (host : String) : List String × Except Fault (List Host) :=
  match Host.parse? host with
  | some literal => ([], .ok [literal])
  | none =>
    if host.contains (Char.ofNat 0) then ([], .error .nulByte)
    else ([host], resolver host)

/-- Each endpoint once, version 4 first, and otherwise in the resolver's order. -/
def preferred (addresses : List Address) : List Address :=
  addresses.eraseDups.mergeSort fun a b => a.isV4 || !b.isV4

def resolveOnPort (resolver : Resolver) (host service : String) (port : UInt16) :
    Lookup (List Address) :=
  match lookupHost resolver host with
  | (asked, .error fault) => ⟨asked, .error (.unresolved host service fault)⟩
  | (asked, .ok hosts) =>
      match preferred (hosts.map (⟨·, port⟩)) with
      | [] => ⟨asked, .error (.noAddress host service)⟩
      | addresses => ⟨asked, .ok addresses⟩

def resolveAll (resolver : Resolver) (host service : String) : Lookup (List Address) :=
  match servicePort service with
  | .error failure => ⟨[], .error failure⟩
  | .ok port => resolveOnPort resolver host service port

def resolve (resolver : Resolver) (host service : String) : Lookup Address :=
  let all := resolveAll resolver host service
  { asked := all.asked
    outcome :=
      all.outcome.bind fun addresses =>
        match addresses.head? with
        | some address => .ok address
        | none => .error (.noAddress host service) }

end Conduit.Net
