import Conduit.Net.IpText
set_option autoImplicit false

namespace Conduit.Net

inductive Host
  | v4 (ip : Ipv4)
  | v6 (ip : Ipv6) (scope : UInt32)
  deriving DecidableEq

structure Address where
  host : Host
  port : UInt16
  deriving DecidableEq

namespace Host

def isV4 : Host → Bool
  | v4 _ => true
  | v6 _ _ => false

def parse? (text : String) : Option Host :=
  let input := text.toList
  let version4 := (Ipv4.read input).map fun (ip, rest) => (v4 ip, rest)
  let version6 := (Ipv6.read input).map fun (ip, rest) => (v6 ip 0, rest)
  match version4.or version6 with
  | some (host, []) => some host
  | _ => none

def ipText : Host → String
  | v4 ip => ip.text
  | v6 ip _ => ip.text

end Host

namespace Address

def ofText? (ip : String) (port : UInt16) : Option Address :=
  (Host.parse? ip).map (⟨·, port⟩)

def ofIpv4Number (n : UInt32) : Address := ⟨.v4 (.ofNumber n), 0⟩

def isV4 (address : Address) : Bool := address.host.isV4

def ipv4Number? (address : Address) : Option UInt32 :=
  match address.host with
  | .v4 ip => some ip.number
  | .v6 _ _ => none

def ipText (address : Address) : String := address.host.ipText

def text (address : Address) : String :=
  let port := toString address.port.toNat
  match address.host with
  | .v4 ip => ip.text ++ ":" ++ port
  | .v6 ip scope =>
      let zone := if scope = 0 then "" else "%" ++ toString scope.toNat
      "[" ++ ip.text ++ zone ++ "]:" ++ port

def compare (left right : Address) : Ordering :=
  match left.host, right.host with
  | .v4 a, .v4 b => (Ord.compare a.number b.number).then (Ord.compare left.port right.port)
  | .v4 _, .v6 _ _ => .lt
  | .v6 _ _, .v4 _ => .gt
  | .v6 a m, .v6 b n =>
      ((Ord.compare a.number b.number).then (Ord.compare left.port right.port)).then
        (Ord.compare m n)

def sort (addresses : List Address) : List Address :=
  addresses.mergeSort fun a b => (a.compare b).isLE

end Address

end Conduit.Net
