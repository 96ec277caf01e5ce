import Conduit.Decimal.Double
import Conduit.Toml.Lexical
set_option autoImplicit false

namespace Conduit.Toml

inductive Number
  | integer (value : Int)
  | float (value : Decimal.Double)
  deriving DecidableEq, Repr

def moreDigits (base : Nat) : Input → Except Stop (List Char × Input)
  | '_' :: c :: rest =>
      if Text.isDigit base c then
        (moreDigits base rest).map fun (digits, rest) => (c :: digits, rest)
      else .error (.broken (c :: rest))
  | c :: rest =>
      if Text.isDigit base c then
        (moreDigits base rest).map fun (digits, rest) => (c :: digits, rest)
      else if c = '_' then .error (.broken rest)
      else .ok ([], c :: rest)
  | [] => .ok ([], [])

def readDigits (base : Nat) : Input → Except Stop (List Char × Input)
  | c :: rest =>
      if Text.isDigit base c then
        (moreDigits base rest).map fun (digits, rest) => (c :: digits, rest)
      else .error (.absent (c :: rest))
  | [] => .error (.absent [])

def readWholePart : Input → Except Stop (List Char × Input)
  | '0' :: rest => .ok (['0'], rest)
  | input => readDigits 10 input

def readSign : Input → Bool × Input
  | '-' :: rest => (true, rest)
  | '+' :: rest => (false, rest)
  | input => (false, input)

def lowestInteger : Int := -9223372036854775808

def highestInteger : Int := 9223372036854775807

def readFraction : Input → Except Stop (List Char × Input)
  | '.' :: rest => must (readDigits 10 rest)
  | input => .ok ([], input)

def readPowerOfTen : Input → Except Stop (Int × Input)
  | c :: rest =>
      if c = 'e' || c = 'E' then
        let (negative, rest) := readSign rest
        (must (readDigits 10 rest)).map fun (digits, rest) =>
          let power : Int := Text.digitsValue 10 digits
          (if negative then -power else power, rest)
      else .ok (0, c :: rest)
  | [] => .ok (0, [])

def readSpecial? (negative : Bool) : Input → Option (Decimal.Double × Input)
  | 'i' :: 'n' :: 'f' :: rest => some (.infinite negative, rest)
  | 'n' :: 'a' :: 'n' :: rest => some (.nan, rest)
  | _ => none

def startsFloat : Input → Bool
  | c :: _ => c = '.' || c = 'e' || c = 'E'
  | [] => false

def readDecimal (start : Input) (negative : Bool) (input : Input) : Except Stop (Number × Input) := do
  let (whole, rest) ← readWholePart input
  if startsFloat rest then
    let (fraction, rest) ← readFraction rest
    let (power, rest) ← readPowerOfTen rest
    let digits := Text.digitsValue 10 (whole ++ fraction)
    let value := Decimal.Double.ofDecimal negative digits (power - fraction.length)
    if value = .infinite false then .error (.broken start) else .ok (.float value, rest)
  else
    let magnitude : Int := Text.digitsValue 10 whole
    let value := if negative then -magnitude else magnitude
    if lowestInteger ≤ value ∧ value ≤ highestInteger then .ok (.integer value, rest)
    else .error (.broken start)

def readInBase (base : Nat) (start input : Input) : Except Stop (Number × Input) := do
  let (digits, rest) ← must (readDigits base input)
  let value : Int := Text.digitsValue base digits
  if value ≤ highestInteger then .ok (.integer value, rest) else .error (.broken start)

def readNumber : Input → Except Stop (Number × Input)
  | '0' :: 'x' :: rest => readInBase 16 ('0' :: 'x' :: rest) rest
  | '0' :: 'o' :: rest => readInBase 8 ('0' :: 'o' :: rest) rest
  | '0' :: 'b' :: rest => readInBase 2 ('0' :: 'b' :: rest) rest
  | input =>
      let (negative, rest) := readSign input
      match readSpecial? negative rest with
      | some (value, rest) => .ok (.float value, rest)
      | none => readDecimal input negative rest

end Conduit.Toml
