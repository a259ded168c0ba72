import AccessControl.Binary64
import AccessControl.Text.Layout
import AccessControl.Toml
/-!
The numbers of a TOML document, whole ones and those with a fraction. A word is judged as a whole.
Underscores may part the digits of a number, one at a time and between two digits.
-/
namespace AccessControl.Toml
open Text

/-- The digits of a number without the underscores between them. -/
def joinDigits (isDigit : Char → Bool) (word : List Char) : Option (List Char) := do
  let groups := word.splitOn '_'
  guard (groups.all fun group => !group.isEmpty && group.all isDigit)
  return groups.flatten

/-- Whether a number starts with its sign, and the rest of it. -/
def cutSign : List Char → Bool × List Char
  | '-' :: rest => (true, rest)
  | '+' :: rest => (false, rest)
  | word => (false, word)

/-- The digits of a decimal number, of which a zero is the first only when it is the only one. -/
def decimalDigits (word : List Char) : Option (List Char) := do
  let digits ← joinDigits Char.isDigit word
  guard (word = ['0'] ∨ word.head? ≠ some '0')
  return digits

/-- A whole number that fits 64 bits. -/
def inRange (number : Int) : Option Value := do
  guard (Int64.minValue.toInt ≤ number ∧ number ≤ Int64.maxValue.toInt)
  return .integer number

/-- A whole number without sign in a base other than ten. -/
def basedInteger (base : Nat) (word : List Char) : Option Value := do
  let isDigit := fun c => (digit? c).any (· < base)
  inRange (numberOf base (← joinDigits isDigit word))

/-- A whole number. -/
def integer? : (word : List Char) → Option Value
  | '0' :: 'x' :: rest => basedInteger 16 rest
  | '0' :: 'o' :: rest => basedInteger 8 rest
  | '0' :: 'b' :: rest => basedInteger 2 rest
  | word => do
    let (negative, digits) := cutSign word
    let size : Int := numberOf 10 (← decimalDigits digits)
    inRange (if negative then -size else size)

/-- The text of what is greater than all numbers. -/
def infinity : String := "inf"

/-- The text of a decimal after its rounding to 64 bits. -/
def roundedText (decimal : Decimal) : String :=
  let places := decimal.exponent + (Nat.toDigits 10 decimal.digits).length
  if decimal.digits = 0 ∨ places < -400 then "0"
  else if 400 ≤ places then infinity
  else
    let number := Binary64.nearest decimal.ratio
    if number.isInfinite then infinity
    else if number.significand = 0 then "0"
    else number.shortest.text

/-- A number with a fraction or an exponent, or with both. One that is too great for 64 bits must have
a minus sign. -/
def number? (word : List Char) : Option Value := do
  let (negative, word) := cutSign word
  let signed := fun text => Value.number (if negative then "-" ++ text else text)
  if word = ['i', 'n', 'f'] then return signed infinity
  if word = ['n', 'a', 'n'] then return .number "NaN"
  let isMark := fun c => c == 'e' || c == 'E'
  let mantissa := word.takeWhile (!isMark ·)
  guard (mantissa ≠ word ∨ '.' ∈ word)
  let (whole, fraction) := (cut? '.' mantissa).getD (mantissa, ['0'])
  let (down, power) := cutSign (word.drop (mantissa.length + 1))
  let power ← if mantissa = word then some ['0'] else joinDigits Char.isDigit power
  let fraction ← joinDigits Char.isDigit fraction
  let exponent : Int := numberOf 10 power
  let decimal := Decimal.mk (numberOf 10 ((← decimalDigits whole) ++ fraction))
    ((if down then -exponent else exponent) - fraction.length)
  let text := roundedText decimal
  guard (negative ∨ text ≠ infinity)
  return signed text

end AccessControl.Toml
