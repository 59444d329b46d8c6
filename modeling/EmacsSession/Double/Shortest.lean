/-
This file finds the shortest decimal that reads back as a given double-precision number.
-/

import EmacsSession.Double.Basic

namespace EmacsSession

/-- A decimal: `coefficient` times ten to the power of `exponent`. -/
structure Decimal where
  coefficient : Nat
  exponent : Int
  deriving DecidableEq, Repr

/-- A fraction of natural numbers. -/
structure Ratio where
  numerator : Nat
  denominator : Nat

namespace Ratio

/-- The product of a natural number and a power of a base. -/
def scaled (base value : Nat) : Int → Ratio
  | .ofNat exponent => ⟨value * Nat.pow base exponent, 1⟩
  | .negSucc exponent => ⟨value, Nat.pow base (exponent + 1)⟩

/-- The fractions are in order, ends included or not. -/
def within (inclusive : Bool) (low high : Ratio) : Bool :=
  let left := low.numerator * high.denominator
  let right := high.numerator * low.denominator
  if inclusive then left ≤ right else left < right

/-- The integer part of the quotient. -/
def floorDivide (value step : Ratio) : Nat :=
  value.numerator * step.denominator / (value.denominator * step.numerator)

/-- The largest power of ten that is not above the positive fraction, as its exponent. -/
def decimalExponent (value : Ratio) : Int :=
  if value.denominator ≤ value.numerator then
    (Nat.toDigits 10 (value.numerator / value.denominator)).length - 1
  else
    let inverse := (value.denominator + value.numerator - 1) / value.numerator
    Int.negOfNat (Nat.toDigits 10 (inverse - 1)).length

end Ratio

namespace Double

/-- The numbers that round to a double-precision number: an interval of reals with or without its
ends. -/
structure Neighbourhood where
  value : Ratio
  low : Ratio
  high : Ratio
  inclusive : Bool

/-- Half the distance to each neighbour; below a power of two the neighbours are twice as dense, and
the ends belong to an even significand. -/
def neighbourhood (number : Double) : Neighbourhood where
  value := .scaled 2 (4 * number.significand) (number.exponent - 2)
  low := .scaled 2
    (4 * number.significand - if number.fractionBits == 0 && 1 < number.exponentBits then 1 else 2)
    (number.exponent - 2)
  high := .scaled 2 (4 * number.significand + 2) (number.exponent - 2)
  inclusive := number.significand % 2 == 0

/-- The decimal rounds to the number. -/
def Neighbourhood.contains (neighbourhood : Neighbourhood) (decimal : Decimal) : Bool :=
  let point := Ratio.scaled 10 decimal.coefficient decimal.exponent
  Ratio.within neighbourhood.inclusive neighbourhood.low point &&
    Ratio.within neighbourhood.inclusive point neighbourhood.high

/-- The decimal on the grid nearest to the number among the two that enclose it, if one of them
rounds to the number; of two equally near decimals the one with the even coefficient. -/
def Neighbourhood.onGrid? (neighbourhood : Neighbourhood) (grid : Int) : Option Decimal :=
  let step := Ratio.scaled 10 1 grid
  let below := neighbourhood.value.floorDivide step
  let lower : Decimal := ⟨below, grid⟩
  let upper : Decimal := ⟨below + 1, grid⟩
  if neighbourhood.contains lower then
    if neighbourhood.contains upper then
      let twice := 2 * neighbourhood.value.numerator * step.denominator
      let middle := (2 * below + 1) * step.numerator * neighbourhood.value.denominator
      if twice < middle || (twice == middle && below % 2 == 0) then some lower else some upper
    else some lower
  else if neighbourhood.contains upper then some upper
  else none

/-- The first grid with a decimal, of the given numbers of places. -/
def Neighbourhood.firstGrid? (neighbourhood : Neighbourhood) (exponent : Int) :
    List Nat → Option Decimal
  | [] => none
  | places :: rest =>
      match neighbourhood.onGrid? (exponent - places) with
      | some decimal => some decimal
      | none => neighbourhood.firstGrid? exponent rest

/-- The shortest decimal that rounds to a positive finite number. Seventeen digits always
suffice. -/
def shortest (number : Double) : Decimal :=
  let neighbourhood := number.neighbourhood
  let exponent := neighbourhood.value.decimalExponent
  (neighbourhood.firstGrid? exponent (List.range 17)).getD ⟨number.significand, number.exponent⟩

end Double

end EmacsSession
