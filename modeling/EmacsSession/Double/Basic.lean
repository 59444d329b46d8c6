/-
This file reads the parts of a double-precision number from its bits.
-/

namespace EmacsSession

/-- A double-precision number as its sixty-four bits. -/
structure Double where
  bits : UInt64
  deriving DecidableEq, Repr

namespace Double

/-- The sign bit is set. -/
def isNegative (number : Double) : Bool :=
  number.bits.toNat / 0x8000000000000000 == 1

/-- The eleven exponent bits. -/
def exponentBits (number : Double) : Nat :=
  number.bits.toNat / 0x10000000000000 % 0x800

/-- The fifty-two fraction bits. -/
def fractionBits (number : Double) : Nat :=
  number.bits.toNat % 0x10000000000000

/-- The number is not a number. -/
def isNaN (number : Double) : Bool :=
  number.exponentBits == 2047 && number.fractionBits != 0

/-- The number is an infinity of either sign. -/
def isInfinite (number : Double) : Bool :=
  number.exponentBits == 2047 && number.fractionBits == 0

/-- The number is a zero of either sign. -/
def isZero (number : Double) : Bool :=
  number.exponentBits == 0 && number.fractionBits == 0

/-- The magnitude of a finite number is its significand times two to the power of its exponent. -/
def significand (number : Double) : Nat :=
  if number.exponentBits == 0 then number.fractionBits else number.fractionBits + 0x10000000000000

/-- The exponent that goes with the significand. -/
def exponent (number : Double) : Int :=
  (max number.exponentBits 1 : Nat) - 1075

/-- The value of a finite number. -/
def toDyadic (number : Double) : Dyadic :=
  let magnitude : Int := number.significand
  Dyadic.ofIntWithPrec (if number.isNegative then -magnitude else magnitude) (-number.exponent)

/-- The integer part of a finite number. -/
def truncated (number : Double) : Int :=
  let magnitude := match number.exponent with
    | .ofNat exponent => number.significand * Nat.pow 2 exponent
    | .negSucc exponent => number.significand / Nat.pow 2 (exponent + 1)
  if number.isNegative then -magnitude else magnitude

end Double

end EmacsSession
