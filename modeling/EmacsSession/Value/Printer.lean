/-
This file prints values as Lisp source text.
-/

import EmacsSession.Value.Basic
import EmacsSession.Double.Text

namespace EmacsSession.Value

/-- The spellings of numbers that are not finite. -/
def printFloat (value : Double) : String :=
  if value.isNaN then "0.0e+NaN"
  else if value.isInfinite then if value.isNegative then "-1.0e+INF" else "1.0e+INF"
  else Double.Layout.standard.text value

/-- A value without forms inside it. The contents of a text are printed as they are; a kind that has
no printed form is the error. -/
def printLeaf : Value → Except Kind String
  | .absent => .ok "nil"
  | .nil => .ok "nil"
  | .text value => .ok ("\"" ++ value ++ "\"")
  | .truth value => .ok (if value then "t" else "nil")
  | .int value => .ok (toString value)
  | .float value => .ok (printFloat value)
  | .symbol value => .ok value.name
  | .keyword value => .ok (":" ++ value.name)
  | value => .error value.kind

mutual

/-- The printed form of a value. The error is the kind of the first part without one. -/
def print : Value → Except Kind String
  | .cell first rest => do
      let head ← print first
      let tail ← printRest rest
      .ok ("(" ++ " ".intercalate (head :: tail) ++ ")")
  | .quote form => do
      let text ← print form
      .ok ("'" ++ text)
  | value => printLeaf value

/-- The words that follow the first element of a list. A chain that does not end in nil ends in a
point and its last part. -/
def printRest : Value → Except Kind (List String)
  | .cell first rest => do
      let head ← print first
      let tail ← printRest rest
      .ok (head :: tail)
  | .quote form => do
      let text ← print form
      .ok [".", "'" ++ text]
  | value => if value.isNil then .ok [] else do
      let text ← printLeaf value
      .ok [".", text]

end

end EmacsSession.Value
