/-
This file reads the named parts of values, and refuses to change them.
-/

import EmacsSession.Fault
import EmacsSession.Value.Operation

namespace EmacsSession.Value

/-- The named parts of a value: both halves of a cell, the form of a quote, the name of a symbol or
keyword. -/
def part? : Value → String → Option Value
  | .cell first _, "car" => some first
  | .cell _ rest, "cdr" => some rest
  | .quote form, "sexp" => some form
  | .symbol value, "name" => some (.text value.name)
  | .keyword value, "name" => some (.text value.name)
  | _, _ => none

/-- The part of a name, or the fault that there is none. -/
def part (value : Value) (name : String) : Except Fault Value :=
  match value.part? name with
  | some part => .ok part
  | none => .error (.noPart value.kind name)

/-- The values whose parts are fixed once they are built. -/
def isFrozen : Value → Bool
  | .cell _ _ => true
  | .quote _ => true
  | .symbol _ => true
  | .keyword _ => true
  | _ => false

/-- The fault of a change. A value with fixed parts refuses every name; any other value keeps its
kind, its operations and its derived parts, and has no part of another name. -/
def refuse (value : Value) (change : Change) (name : String) : Fault :=
  if value.isFrozen then .frozen change name
  else if name == "__class__" then .fixedKind change
  else if value.kind.derivedParts.contains name then .derivedPart value.kind.owner name
  else if value.kind.hasOperation name then .fixedOperation value.kind name
  else .noPart value.kind name

end EmacsSession.Value
