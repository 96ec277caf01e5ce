set_option autoImplicit false

namespace Conduit.Decimal

inductive Double
  | finite (negative : Bool) (significand : Nat) (exponent : Int)
  | infinite (negative : Bool)
  | nan
  deriving DecidableEq, Repr

structure Fraction where
  numerator : Nat
  denominator : Nat
  deriving DecidableEq, Repr

namespace Fraction

def ofDecimal (digits : Nat) (exponent : Int) : Fraction :=
  if 0 ≤ exponent then ⟨digits * Nat.pow 10 exponent.toNat, 1⟩
  else ⟨digits, Nat.pow 10 (-exponent).toNat⟩

def ofBinary (significand : Nat) (exponent : Int) : Fraction :=
  if 0 ≤ exponent then ⟨significand * Nat.pow 2 exponent.toNat, 1⟩
  else ⟨significand, Nat.pow 2 (-exponent).toNat⟩

def inUnits (fraction : Fraction) (base : Nat) (exponent : Int) : Fraction :=
  if 0 ≤ exponent then ⟨fraction.numerator, fraction.denominator * Nat.pow base exponent.toNat⟩
  else ⟨fraction.numerator * Nat.pow base (-exponent).toNat, fraction.denominator⟩

def floor (fraction : Fraction) : Nat := fraction.numerator / fraction.denominator

def nearestEven (fraction : Fraction) : Nat :=
  let whole := fraction.floor
  let twice := 2 * (fraction.numerator % fraction.denominator)
  if twice < fraction.denominator then whole
  else if fraction.denominator < twice then whole + 1
  else whole + whole % 2

def log2 (fraction : Fraction) : Int :=
  let guess : Int := (fraction.numerator.log2 : Int) - fraction.denominator.log2
  let scaled := fraction.inUnits 2 guess
  if scaled.denominator ≤ scaled.numerator then guess else guess - 1

def le (left right : Fraction) : Bool :=
  left.numerator * right.denominator ≤ right.numerator * left.denominator

end Fraction

namespace Double

def significandBits : Nat := 53

def normalSignificand : Nat := 4503599627370496

def lowestExponent : Int := -1074

def highestExponent : Int := 971

def ofFraction (negative : Bool) (fraction : Fraction) : Double :=
  let exponent := max lowestExponent (fraction.log2 - (significandBits - 1))
  let rounded := (fraction.inUnits 2 exponent).nearestEven
  let (significand, exponent) :=
    if rounded = 2 * normalSignificand then (normalSignificand, exponent + 1)
    else (rounded, exponent)
  if highestExponent < exponent then infinite negative else finite negative significand exponent

def rank : Double → Int
  | finite negative significand exponent =>
      let magnitude : Int := significand * Nat.pow 2 (exponent - lowestExponent).toNat
      if negative then -magnitude else magnitude
  | infinite negative => if negative then -(Nat.pow 2 2200 : Nat) else (Nat.pow 2 2200 : Nat)
  | nan => 0

def ofDecimal (negative : Bool) (digits : Nat) (exponent : Int) : Double :=
  let magnitude : Int := (Nat.toDigits 10 digits).length + exponent
  if digits = 0 || magnitude < -330 then finite negative 0 lowestExponent
  else if 330 < magnitude then infinite negative
  else ofFraction negative (.ofDecimal digits exponent)

end Double

end Conduit.Decimal
