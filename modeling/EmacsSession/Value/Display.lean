/-
This file shows values for people.
-/

import EmacsSession.Text.Quoted
import EmacsSession.Value.Printer

namespace EmacsSession.Value

/-- A complex number is shown in brackets unless its real part is a positive zero. -/
def describeComplex (real imaginary : Double) : String :=
  let left := Double.Layout.bare.text real
  let right := Double.Layout.bare.text imaginary
  if real.isZero && !real.isNegative then right ++ "j"
  else
    let signed := if right.startsWith "-" then right else "+" ++ right
    "(" ++ left ++ signed ++ "j)"

mutual

/-- A description that names the parts of a value. -/
def describe : Value → String
  | .absent => "None"
  | .nil => "Nil"
  | .truth value => if value then "True" else "False"
  | .int value => toString value
  | .float value => Double.Layout.standard.text value
  | .text value => Text.quoted value
  | .symbol value => "Atom(name=" ++ Text.quoted value.name ++ ")"
  | .keyword value => "Keyword(name=" ++ Text.quoted value.name ++ ")"
  | .quote form => "Quote(sexp=" ++ describe form ++ ")"
  | .cell first rest => "Cell(car=" ++ describe first ++ ", cdr=" ++ describe rest ++ ")"
  | .list items => "[" ++ ", ".intercalate (describeItems items) ++ "]"
  | .tuple items =>
      match describeItems items with
      | [item] => "(" ++ item ++ ",)"
      | shown => "(" ++ ", ".intercalate shown ++ ")"
  | .table entries => "\x7b" ++ ", ".intercalate (describeEntries entries) ++ "\x7d"
  | .octets value => "b" ++ Text.quotedOctets value
  | .complex real imaginary => describeComplex real imaginary
  | .object _ => "<object object>"
  | .foreign kind _ => "<" ++ kind ++ " object>"

/-- The descriptions of the items. -/
def describeItems : List Value → List String
  | [] => []
  | item :: items => describe item :: describeItems items

/-- The descriptions of the entries, key and value parted by a colon. -/
def describeEntries : List (Value × Value) → List String
  | [] => []
  | (key, value) :: entries => (describe key ++ ": " ++ describe value) :: describeEntries entries

end

/-- A value as running text: a text is itself, a form is printed, and everything else is
described. -/
def display : Value → Except Kind String
  | .text value => .ok value
  | .symbol value => .ok value.name
  | .keyword value => .ok (":" ++ value.name)
  | .quote form => print (.quote form)
  | .cell first rest => print (.cell first rest)
  | value => .ok (describe value)

end EmacsSession.Value
