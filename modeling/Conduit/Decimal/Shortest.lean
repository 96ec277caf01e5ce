import Conduit.Decimal.Double
set_option autoImplicit false

namespace Conduit.Decimal

structure Interval where
  low : Fraction
  high : Fraction
  closed : Bool

namespace Interval

def contains (interval : Interval) (point : Fraction) : Bool :=
  let above := if interval.closed then interval.low.le point else !point.le interval.low
  let below := if interval.closed then point.le interval.high else !interval.high.le point
  above && below

def ofDouble (significand : Nat) (exponent : Int) : Interval :=
  let narrow := significand = Double.normalSignificand && Double.lowestExponent < exponent
  { low := .ofBinary (4 * significand - (if narrow then 1 else 2)) (exponent - 2)
    high := .ofBinary (4 * significand + 2) (exponent - 2)
    closed := significand % 2 = 0 }

end Interval

structure Scaled where
  digits : Nat
  exponent : Int
  deriving DecidableEq, Repr

def Scaled.fraction (scaled : Scaled) : Fraction := .ofDecimal scaled.digits scaled.exponent

def distance (left right : Fraction) : Fraction :=
  let a := left.numerator * right.denominator
  let b := right.numerator * left.denominator
  ⟨max a b - min a b, left.denominator * right.denominator⟩

/-- The decimals next to `value` on the grid of a power of ten that lie in the interval, nearest first and of
two that are equally near the upper one. -/
def neighbours (value : Fraction) (interval : Interval) (exponent : Int) : List Scaled :=
  let below := (value.inUnits 10 exponent).floor
  let inside := [below + 1, below].map (⟨·, exponent⟩) |>.filter fun scaled : Scaled =>
    scaled.digits ≠ 0 && interval.contains scaled.fraction
  inside.mergeSort fun a b => (distance a.fraction value).le (distance b.fraction value)

def firstHit (value : Fraction) (interval : Interval) (top : Int) : Nat → Nat → Option Scaled
  | 0, _ => none
  | grids + 1, places =>
      match neighbours value interval (top - places) with
      | nearest :: _ => some nearest
      | [] => firstHit value interval top grids (places + 1)

def decimalTop (value : Fraction) : Int :=
  let guess := value.log2 * 1233 / 4096 + 1
  if (Fraction.ofDecimal 1 guess).le value then guess + 1 else guess

def shortest (significand : Nat) (exponent : Int) : Scaled :=
  let value := Fraction.ofBinary significand exponent
  (firstHit value (.ofDouble significand exponent) (decimalTop value) 19 0).getD ⟨0, 0⟩

def Scaled.text (scaled : Scaled) : String :=
  let digits := Nat.toDigits 10 scaled.digits
  if 0 ≤ scaled.exponent then
    String.ofList (digits ++ List.replicate scaled.exponent.toNat '0')
  else
    let places := (-scaled.exponent).toNat
    let padded := List.replicate (places + 1 - digits.length) '0' ++ digits
    let whole := padded.take (padded.length - places)
    let fraction := padded.drop (padded.length - places)
    String.ofList whole ++ "." ++ String.ofList fraction

namespace Double

def text : Double → String
  | .finite negative significand exponent =>
      let sign := if negative then "-" else ""
      if significand = 0 then sign ++ "0" else sign ++ (shortest significand exponent).text
  | .infinite false => "inf"
  | .infinite true => "-inf"
  | .nan => "NaN"

def textWithPoint (value : Double) : String :=
  match value with
  | .finite _ _ _ => if value.text.contains '.' then value.text else value.text ++ ".0"
  | _ => value.text

end Double

end Conduit.Decimal
