set_option autoImplicit false

namespace Conduit.Net

structure Ipv4 where
  a : UInt8
  b : UInt8
  c : UInt8
  d : UInt8
  deriving DecidableEq, Repr

structure Ipv6 where
  groups : List UInt16
  length_eq : groups.length = 8
  deriving DecidableEq

namespace Ipv4

def number (ip : Ipv4) : UInt32 :=
  UInt32.ofNat (((ip.a.toNat * 256 + ip.b.toNat) * 256 + ip.c.toNat) * 256 + ip.d.toNat)

def ofNumber (n : UInt32) : Ipv4 :=
  { a := UInt8.ofNat (n.toNat / 16777216)
    b := UInt8.ofNat (n.toNat / 65536)
    c := UInt8.ofNat (n.toNat / 256)
    d := UInt8.ofNat n.toNat }

def groups (ip : Ipv4) : List UInt16 :=
  [ UInt16.ofNat (ip.a.toNat * 256 + ip.b.toNat), UInt16.ofNat (ip.c.toNat * 256 + ip.d.toNat) ]

def ofGroups (high low : UInt16) : Ipv4 :=
  { a := UInt8.ofNat (high.toNat / 256)
    b := UInt8.ofNat high.toNat
    c := UInt8.ofNat (low.toNat / 256)
    d := UInt8.ofNat low.toNat }

end Ipv4

namespace Ipv6

def ofGroups? (groups : List UInt16) : Option Ipv6 :=
  if complete : groups.length = 8 then some ⟨groups, complete⟩ else none

def number (ip : Ipv6) : Nat :=
  ip.groups.foldl (fun value group => value * 65536 + group.toNat) 0

def mapped? (ip : Ipv6) : Option Ipv4 :=
  match ip.groups with
  | [0, 0, 0, 0, 0, 0xffff, high, low] => some (.ofGroups high low)
  | _ => none

end Ipv6

end Conduit.Net
