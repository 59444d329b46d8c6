/-
This file gives the exact numbers that values stand for.
-/

import EmacsSession.Value.Basic

namespace EmacsSession

/-- A real number, an infinity, or no number. -/
inductive Number where
  | finite (value : Dyadic)
  | infinity (negative : Bool)
  | undefined
  deriving DecidableEq

namespace Number

/-- Equal numbers are equal, except that what is no number equals nothing. -/
def same (left right : Number) : Bool :=
  left == right && left != .undefined

/-- The parts of a finite number in lowest terms are mixed. -/
def digest : Number → UInt64
  | .finite .zero => 0
  | .finite (.ofOdd numerator places _) => mixHash (hash numerator) (hash places)
  | .infinity negative => if negative then 1 else 2
  | .undefined => 3

end Number

/-- The exact number of a double. -/
def Double.toNumber (value : Double) : Number :=
  if value.isNaN then .undefined
  else if value.isInfinite then .infinity value.isNegative
  else .finite value.toDyadic

/-- The real and the imaginary part of a value that is a number; truth values count as one and
zero. -/
def Value.number? : Value → Option (Number × Number)
  | .truth value => some (.finite (Dyadic.ofInt (if value then 1 else 0)), .finite .zero)
  | .int value => some (.finite (Dyadic.ofInt value), .finite .zero)
  | .float value => some (value.toNumber, .finite .zero)
  | .complex real imaginary => some (real.toNumber, imaginary.toNumber)
  | _ => none

end EmacsSession
