/-
This file writes a double-precision number as text.
-/

import EmacsSession.Double.Shortest

namespace EmacsSession.Double

/-- The decisions of a number format. -/
structure Layout where
  /-- The least decimal exponent that is written with places only. -/
  leastPlain : Int
  /-- The least decimal exponent above those. -/
  leastScientific : Int
  /-- A number without decimal places is written with a point and a zero. -/
  keepsPoint : Bool

/-- Numbers from a ten-thousandth up to ten to the sixteenth are written with places only. -/
def Layout.standard : Layout := ⟨-4, 16, true⟩

/-- The standard layout without a point behind a whole number. -/
def Layout.bare : Layout := { Layout.standard with keepsPoint := false }

/-- The coefficient of a decimal without trailing zeros, as digits. -/
def significantDigits (decimal : Decimal) : List Char :=
  match Nat.toDigits 10 decimal.coefficient with
  | [] => []
  | digit :: digits => digit :: (digits.reverse.dropWhile (· == '0')).reverse

/-- The decimal exponent of the leading digit. -/
def leadingExponent (decimal : Decimal) : Int :=
  (Nat.toDigits 10 decimal.coefficient).length + decimal.exponent - 1

/-- The digits with the point in its place. -/
def Layout.plain (layout : Layout) (digits : List Char) (exponent : Int) : List Char :=
  if exponent < 0 then
    '0' :: '.' :: List.replicate (-exponent - 1).toNat '0' ++ digits
  else
    let whole := exponent.toNat + 1
    if digits.length ≤ whole then
      digits ++ List.replicate (whole - digits.length) '0' ++
        if layout.keepsPoint then ['.', '0'] else []
    else digits.take whole ++ '.' :: digits.drop whole

/-- A natural number in at least two digits. -/
def twoDigits (number : Nat) : List Char :=
  if number < 10 then '0' :: Nat.toDigits 10 number else Nat.toDigits 10 number

/-- The digits with one digit in front of the point and the exponent behind them. -/
def scientific (digits : List Char) (exponent : Int) : List Char :=
  let places := match digits.drop 1 with
    | [] => []
    | rest => '.' :: rest
  digits.take 1 ++ places ++ 'e' :: (if exponent < 0 then '-' else '+') :: twoDigits exponent.natAbs

/-- The magnitude of a finite number as text. -/
def Layout.magnitude (layout : Layout) (number : Double) : List Char :=
  if number.isZero then layout.plain ['0'] 0
  else
    let decimal := number.shortest
    let digits := significantDigits decimal
    let exponent := leadingExponent decimal
    if layout.leastPlain ≤ exponent && exponent < layout.leastScientific then
      layout.plain digits exponent
    else scientific digits exponent

/-- A finite number as text. -/
def Layout.finite (layout : Layout) (number : Double) : List Char :=
  (if number.isNegative then ['-'] else []) ++ layout.magnitude number

/-- A number as text, with words for what is not finite. -/
def Layout.text (layout : Layout) (number : Double) : String :=
  if number.isNaN then "nan"
  else if number.isInfinite then if number.isNegative then "-inf" else "inf"
  else String.ofList (layout.finite number)

end EmacsSession.Double
