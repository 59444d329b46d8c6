/-
This file fills templates with values.
-/

import EmacsSession.Template.Conversion
import EmacsSession.Value.Table

namespace EmacsSession.Template

/-- The values that a template is filled with. -/
inductive Supply where
  /-- The values that are left, in order. -/
  | items (values : List Value)
  /-- Values with names, and the one that the next directive takes. At first that is the table
  itself. -/
  | table (entries : Table) (next : Option Value)

namespace Supply

/-- The named values of a table. -/
def ofTable (entries : Table) : Supply :=
  .table entries (some (.table entries))

/-- The supply from which a directive takes the value that it names. -/
def select (supply : Supply) : Field → Except Flaw Supply
  | .absent => .ok supply
  | field =>
      match supply, field with
      | .table entries _, .named name =>
          match entries.find (.text name) with
          | some value => .ok (.table entries (some value))
          | none => .error (.noField name)
      | .table _ _, _ => .error .openField
      | .items _, _ => .error .noTable

/-- The next value. -/
def take : Supply → Except Flaw (Value × Supply)
  | .items (value :: values) => .ok (value, .items values)
  | .table entries (some value) => .ok (value, .table entries none)
  | _ => .error .tooFewArguments

/-- The next value, which has to be an integer. -/
def takeInteger (supply : Supply) : Except Flaw (Int × Supply) := do
  match ← supply.take with
  | (.int value, supply) => .ok (value, supply)
  | (.truth value, supply) => .ok (if value then 1 else 0, supply)
  | _ => .error .amountKind

/-- The largest number of a width. -/
def largestWidth : Nat := 9223372036854775807

/-- The width that an integer stands for. A negative one has one more to the range, which is no
width. -/
def widthOf (number : Int) : Except Flaw Int :=
  if number == -largestWidth - 1 then .ok 0
  else if largestWidth < number.natAbs then .error .widthOverflow
  else .ok number

/-- The width that a directive asks for; a negative one stands for alignment to the left. -/
def takeWidth (supply : Supply) : Option Amount → Except Flaw (Int × Supply)
  | none => .ok (0, supply)
  | some (.written number) =>
      if largestWidth < number then .error .widthTooBig else .ok (number, supply)
  | some .taken => do
      let (number, supply) ← supply.takeInteger
      .ok (← widthOf number, supply)

/-- The largest number of a precision. -/
def largestPrecision : Nat := 2147483647

/-- The precision that a directive asks for; a negative one counts as zero. -/
def takePrecision (supply : Supply) : Option Amount → Except Flaw (Option Nat × Supply)
  | none => .ok (none, supply)
  | some (.written number) =>
      if largestPrecision < number then .error .precisionTooBig else .ok (some number, supply)
  | some .taken => do
      let (number, supply) ← supply.takeInteger
      if largestPrecision < number || number < -largestPrecision - 1 then
        .error .precisionOverflow
      else .ok (some number.toNat, supply)

/-- The next value with all that its directive asks for, taken in the order of the directive. -/
def serve (supply : Supply) (directive : Directive) :
    Except Flaw ((Setting × Char × Nat × Value) × Supply) := do
  let supply ← supply.select directive.field
  let (width, supply) ← supply.takeWidth directive.width
  let (precision, supply) ← supply.takePrecision directive.precision
  match directive.conversion with
  | none => .error .unfinished
  | some (conversion, place) =>
      let (value, supply) ← supply.take
      let flags := { directive.flags with
        leftAligned := directive.flags.leftAligned || width < 0 }
      .ok ((⟨flags, width.natAbs, precision⟩, conversion, place, value), supply)

end Supply

/-- The pieces filled with the values, behind a text. Values in order are all used. -/
def fillPieces (filled : String) : List Piece → Supply → Except Fault String
  | [], .items (_ :: _) => .error (.template .tooManyArguments)
  | [], _ => .ok filled
  | .character value :: rest, supply => fillPieces (filled.push value) rest supply
  | .directive directive :: rest, supply => do
      let ((setting, conversion, place, value), supply) ←
        (supply.serve directive).mapError Fault.template
      let text ← convert setting conversion place value
      fillPieces (filled ++ String.ofList text) rest supply

/-- The template filled with the values. -/
def fill (template : String) (supply : Supply) : Except Fault String :=
  fillPieces "" (pieces template) supply

end EmacsSession.Template
