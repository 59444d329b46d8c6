/-
This file writes double-precision numbers with a given number of digits.
-/

import EmacsSession.Double.Text

namespace EmacsSession

namespace Ratio

/-- The nearest integer; of two equally near integers the even one. -/
def round (value : Ratio) : Nat :=
  let whole := value.numerator / value.denominator
  let twice := 2 * (value.numerator % value.denominator)
  if twice < value.denominator then whole
  else if value.denominator < twice then whole + 1
  else whole + whole % 2

/-- The product with a power of ten. -/
def shifted (value : Ratio) : Int → Ratio
  | .ofNat exponent => ⟨value.numerator * Nat.pow 10 exponent, value.denominator⟩
  | .negSucc exponent => ⟨value.numerator, value.denominator * Nat.pow 10 (exponent + 1)⟩

/-- The digits of a fraction rounded to a positive count of digits, and the decimal exponent of the
first one. -/
def leading (value : Ratio) (count : Nat) : List Char × Int :=
  if value.numerator == 0 then (List.replicate count '0', 0)
  else
    let exponent := value.decimalExponent
    let digits := Nat.toDigits 10 (value.shifted ((count : Int) - 1 - exponent)).round
    (digits.take count, exponent + (digits.length - count : Nat))

end Ratio

namespace Double

/-- The magnitude of a finite number. -/
def size (number : Double) : Ratio :=
  .scaled 2 number.significand number.exponent

/-- The digits in front of the point and those behind it; the point is left out where nothing
follows it, unless it is kept. -/
def aroundPoint (keepsPoint : Bool) (whole places : List Char) : List Char :=
  if places.isEmpty && !keepsPoint then whole else whole ++ '.' :: places

/-- The magnitude of a number with a fixed count of decimal places. -/
def fixed (keepsPoint : Bool) (places : Nat) (number : Double) : List Char :=
  let digits := Nat.toDigits 10 (number.size.shifted places).round
  let digits := List.replicate (places + 1 - digits.length) '0' ++ digits
  aroundPoint keepsPoint (digits.take (digits.length - places))
    (digits.drop (digits.length - places))

/-- The digits with one of them in front of the point, and the exponent. -/
def withExponent (keepsPoint : Bool) (digits : List Char) (exponent : Int) : List Char :=
  aroundPoint keepsPoint (digits.take 1) (digits.drop 1) ++
    'e' :: (if exponent < 0 then '-' else '+') :: twoDigits exponent.natAbs

/-- The magnitude of a number with one digit in front of the point and a fixed count of decimal
places. -/
def exponential (keepsPoint : Bool) (places : Nat) (number : Double) : List Char :=
  let (digits, exponent) := number.size.leading (places + 1)
  withExponent keepsPoint digits exponent

/-- The digits without zeros at their end; at least one digit stays. -/
def withoutZeros (digits : List Char) : List Char :=
  digits.take 1 ++ ((digits.drop 1).reverse.dropWhile (· == '0')).reverse

/-- The magnitude of a number with a count of digits, with an exponent where it is far from one. -/
def general (keepsPoint : Bool) (count : Nat) (number : Double) : List Char :=
  let count := max count 1
  let (digits, exponent) := number.size.leading count
  let digits := if keepsPoint then digits else withoutZeros digits
  if exponent < -4 || (count : Int) ≤ exponent then withExponent keepsPoint digits exponent
  else if exponent < 0 then
    '0' :: '.' :: List.replicate (-exponent - 1).toNat '0' ++ digits
  else
    let whole := exponent.toNat + 1
    aroundPoint keepsPoint (digits.take whole ++ List.replicate (whole - digits.length) '0')
      (digits.drop whole)

end Double

end EmacsSession
