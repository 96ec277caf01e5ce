import Conduit.Decimal.Shortest
import Conduit.Text.Digits
import Conduit.Text.Pattern
set_option autoImplicit false

namespace Conduit

inductive FieldValue
  | truth (value : Bool)
  | float (value : Decimal.Double)
  | natural (value : Nat)
  | integer (value : Int)
  | pattern (text : String)
  deriving DecidableEq, Repr

namespace FieldValue

def naturalLimit : Nat := 18446744073709551616

def integerLimit : Nat := 9223372036854775808

def readInteger? (text : String) : Option Int :=
  match text.toList with
  | '-' :: digits =>
      let magnitude := Text.unsigned? (integerLimit + 1) (String.ofList digits)
      if digits.head? = some '+' then none else magnitude.map fun n => -(n : Int)
  | _ => (Text.unsigned? integerLimit text).map Int.ofNat

def spanDigits (input : List Char) : List Char × List Char :=
  (input.takeWhile (Text.isDigit 10), input.dropWhile (Text.isDigit 10))

def readSign : List Char → Bool × List Char
  | '-' :: rest => (true, rest)
  | '+' :: rest => (false, rest)
  | input => (false, input)

def readPower? (input : List Char) : Option Int :=
  match input with
  | [] => some 0
  | c :: rest =>
      let (negative, rest) := readSign rest
      let (digits, rest) := spanDigits rest
      let power : Int := Text.digitsValue 10 digits
      if (c = 'e' || c = 'E') && !digits.isEmpty && rest.isEmpty then
        some (if negative then -power else power)
      else none

def readDecimal? (negative : Bool) (input : List Char) : Option Decimal.Double := do
  let (whole, rest) := spanDigits input
  let (fraction, rest) := match rest with
    | '.' :: rest => spanDigits rest
    | rest => ([], rest)
  let power ← readPower? rest
  if whole.isEmpty && fraction.isEmpty then none
  else
    let digits := Text.digitsValue 10 (whole ++ fraction)
    some (Decimal.Double.ofDecimal negative digits (power - fraction.length))

def readFloat? (text : String) : Option Decimal.Double :=
  let (negative, rest) := readSign text.toList
  let name := (String.ofList rest).toLower
  if name = "inf" || name = "infinity" then some (.infinite negative)
  else if name = "nan" then some .nan
  else readDecimal? negative rest

def parse? (text : String) : Option FieldValue :=
  if text = "true" || text = "false" then some (truth (text = "true"))
  else
    ((Text.unsigned? naturalLimit text).map natural).or <|
      ((readInteger? text).map integer).or <|
      ((readFloat? text).map float).or <|
      if Text.Pattern.isMatchable text then some (pattern text) else none

def text : FieldValue → String
  | truth value => toString value
  | float value => value.text
  | natural value => toString value
  | integer value => toString value
  | pattern text => text

def kind : FieldValue → Nat
  | truth _ => 0
  | float .nan => 2
  | float _ => 1
  | natural _ => 3
  | integer _ => 4
  | pattern _ => 5

def order (left right : FieldValue) : Ordering :=
  (compare left.kind right.kind).then <|
    match left, right with
    | truth a, truth b => compare a.toNat b.toNat
    | float a, float b => compare a.rank b.rank
    | natural a, natural b => compare a b
    | integer a, integer b => compare a b
    | pattern a, pattern b => compare a b
    | _, _ => .eq

end FieldValue

structure Field where
  name : String
  value : Option FieldValue
  deriving DecidableEq, Repr

namespace Field

def parse? (text : String) : Option Field :=
  match text.splitOn "=" with
  | name :: value :: _ => (FieldValue.parse? value).map fun value => ⟨name, some value⟩
  | _ => if text.isEmpty then none else some ⟨text, none⟩

def text (field : Field) : String :=
  match field.value with
  | some value => field.name ++ "=" ++ value.text
  | none => field.name

def order (left right : Field) : Ordering :=
  (compare left.value.isSome.toNat right.value.isSome.toNat).then <|
    (compare left.name right.name).then <|
    match left.value, right.value with
    | some a, some b => a.order b
    | _, _ => .eq

end Field

end Conduit
