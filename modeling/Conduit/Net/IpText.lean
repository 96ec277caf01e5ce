import Conduit.Net.Ip
import Conduit.Text.Digits
set_option autoImplicit false

namespace Conduit.Net

open Text (isDigit digitsValue digitsText)

def readNumber (base places limit : Nat) (leadingZeros : Bool) (input : List Char) :
    Option (Nat × List Char) :=
  let digits := input.takeWhile (isDigit base)
  let value := digitsValue base digits
  if digits.isEmpty || places < digits.length then none
  else if !leadingZeros && 1 < digits.length && digits.head? == some '0' then none
  else if limit ≤ value then none
  else some (value, input.dropWhile (isDigit base))

def afterSeparator (first : Bool) (separator : Char) (input : List Char) : Option (List Char) :=
  if first then some input
  else
    match input with
    | c :: rest => if c = separator then some rest else none
    | [] => none

namespace Ipv4

def readByte (first : Bool) (input : List Char) : Option (UInt8 × List Char) := do
  let (value, rest) ← readNumber 10 3 256 false (← afterSeparator first '.' input)
  return (UInt8.ofNat value, rest)

def read (input : List Char) : Option (Ipv4 × List Char) := do
  let (a, input) ← readByte true input
  let (b, input) ← readByte false input
  let (c, input) ← readByte false input
  let (d, input) ← readByte false input
  return (⟨a, b, c, d⟩, input)

def text (ip : Ipv4) : String :=
  ".".intercalate ([ip.a, ip.b, ip.c, ip.d].map fun byte => digitsText 10 byte.toNat)

end Ipv4

namespace Ipv6

def readGroup (input : List Char) : Option (UInt16 × List Char) := do
  let (value, rest) ← readNumber 16 4 65536 true input
  return (UInt16.ofNat value, rest)

def readGroups : (room : Nat) → (first : Bool) → List Char → List UInt16 × Bool × List Char
  | 0, _, input => ([], false, input)
  | room + 1, first, input =>
    let item := afterSeparator first ':' input
    match if 1 ≤ room then item.bind Ipv4.read else none with
    | some (ip, rest) => (ip.groups, true, rest)
    | none =>
      match item.bind readGroup with
      | some (group, rest) =>
          let (more, dotted, rest) := readGroups room false rest
          (group :: more, dotted, rest)
      | none => ([], false, input)

/-- The double colon stands for at least one group and may not follow a dotted tail. -/
def read (input : List Char) : Option (Ipv6 × List Char) :=
  let (front, dotted, rest) := readGroups 8 true input
  match ofGroups? front with
  | some ip => some (ip, rest)
  | none =>
    match dotted, rest with
    | false, ':' :: ':' :: rest =>
        let (back, _, rest) := readGroups (7 - front.length) true rest
        let zeros := List.replicate (8 - front.length - back.length) 0
        (ofGroups? (front ++ zeros ++ back)).map (·, rest)
    | _, _ => none

def zerosAt (groups : List UInt16) (start : Nat) : Nat :=
  ((groups.drop start).takeWhile (· == 0)).length

def longestZeros (groups : List UInt16) : Nat × Nat :=
  (List.range groups.length).foldl
    (fun best start =>
      if best.2 < zerosAt groups start then (start, zerosAt groups start) else best)
    (0, 0)

def groupsText (groups : List UInt16) : String :=
  ":".intercalate (groups.map fun group => digitsText 16 group.toNat)

def text (ip : Ipv6) : String :=
  match ip.mapped? with
  | some inner => "::ffff:" ++ inner.text
  | none =>
    let (start, length) := longestZeros ip.groups
    if 1 < length then
      groupsText (ip.groups.take start) ++ "::" ++ groupsText (ip.groups.drop (start + length))
    else groupsText ip.groups

end Ipv6

end Conduit.Net
