/-!
Positive numbers in 64 bits: the one that is nearest to a ratio, and the shortest decimal that is
nearest to no other one. All of it is exact arithmetic on natural numbers.
-/
namespace AccessControl

/-- The number `significand * 2 ^ exponent`. -/
structure Binary64 where
  significand : Nat
  exponent : Int
deriving DecidableEq, Repr

/-- The number `digits * 10 ^ exponent`. -/
structure Decimal where
  digits : Nat
  exponent : Int
deriving DecidableEq, Repr

structure Ratio where
  numerator : Nat
  denominator : Nat
deriving Repr

namespace Ratio

/-- The ratio times a power of `base`. -/
def scale (base : Nat) (exponent : Int) (ratio : Ratio) : Ratio :=
  if 0 ≤ exponent then { ratio with numerator := ratio.numerator * base.pow exponent.toNat }
  else { ratio with denominator := ratio.denominator * base.pow (-exponent).toNat }

/-- The nearest whole number, of two as near the even one. -/
def round (ratio : Ratio) : Nat :=
  let whole := ratio.numerator / ratio.denominator
  let twice := 2 * (ratio.numerator % ratio.denominator)
  if twice > ratio.denominator ∨ (twice = ratio.denominator ∧ whole % 2 = 1) then whole + 1 else whole

/-- Whether the ratio is below a whole number. -/
def isBelow (ratio : Ratio) (bound : Nat) : Bool := ratio.numerator < bound * ratio.denominator

/-- The number of digits before the point, or less one the number of zeros just after it. -/
def magnitude (ratio : Ratio) : Int :=
  let count := fun n => ((Nat.toDigits 10 n).length : Int)
  let guess := count ratio.numerator - count ratio.denominator
  if (ratio.scale 10 (-guess)).isBelow 1 then guess else guess + 1

end Ratio

namespace Decimal

def ratio (decimal : Decimal) : Ratio := Ratio.scale 10 decimal.exponent ⟨decimal.digits, 1⟩

/-- The decimal with all its places, and with a point only if there is something after it. -/
def text (decimal : Decimal) : String :=
  let digits := Nat.toDigits 10 decimal.digits
  if 0 ≤ decimal.exponent then
    String.ofList (digits ++ List.replicate decimal.exponent.toNat '0')
  else
    let places := (-decimal.exponent).toNat
    let padded := List.replicate (places + 1 - digits.length) '0' ++ digits
    let whole := padded.length - places
    String.ofList (padded.take whole ++ '.' :: padded.drop whole)

end Decimal

namespace Binary64

/-- The least exponent. -/
def leastExponent : Int := -1074

def greatestExponent : Int := 971

/-- The number nearest to a ratio. It may be too great for 64 bits, or zero. -/
def nearest (ratio : Ratio) : Binary64 :=
  let guess := (ratio.numerator.log2 : Int) - ratio.denominator.log2 - 52
  let exponent := if (ratio.scale 2 (-guess)).isBelow (1 <<< 52) then guess - 1 else guess
  let exponent := max exponent leastExponent
  let significand := (ratio.scale 2 (-exponent)).round
  if significand = 1 <<< 53 then ⟨1 <<< 52, exponent + 1⟩ else ⟨significand, exponent⟩

def isInfinite (number : Binary64) : Bool := greatestExponent < number.exponent

def ratio (number : Binary64) : Ratio := Ratio.scale 2 number.exponent ⟨number.significand, 1⟩

/-- The decimal nearest to the number among those with some count of digits. -/
def decimal (number : Binary64) (count : Nat) : Decimal :=
  let exponent := number.ratio.magnitude - count
  ⟨(number.ratio.scale 10 (-exponent)).round, exponent⟩

/-- The decimal with the fewest digits that is nearest to the number. Seventeen digits are enough. -/
def shortest (number : Binary64) : Decimal :=
  (((List.range' 1 16).map number.decimal).find? fun decimal => nearest decimal.ratio == number).getD
    (number.decimal 17)

end Binary64
end AccessControl
