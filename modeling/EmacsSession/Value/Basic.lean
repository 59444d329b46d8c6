/-
This file defines the values of forms: Lisp data beside the plain data of the caller.
-/

import EmacsSession.Name
import EmacsSession.Double.Basic

namespace EmacsSession

/-- A value of a form. The kinds from `list` on have no printed form, and `absent` is read as
nil. -/
inductive Value where
  | absent
  | nil
  | truth (value : Bool)
  | int (value : Int)
  | float (value : Double)
  | text (value : String)
  | symbol (value : Symbol)
  | keyword (value : Keyword)
  | quote (form : Value)
  | cell (first rest : Value)
  | list (items : List Value)
  | tuple (items : List Value)
  | table (entries : List (Value × Value))
  | octets (value : List UInt8)
  | complex (real imaginary : Double)
  /-- A thing without contents, told apart by its number. -/
  | object (number : Nat)
  /-- A thing of a kind that is not listed here, told apart by its number. -/
  | foreign (kind : String) (number : Nat)
  deriving Inhabited

/-- The kinds of values. -/
inductive Kind where
  | absent
  | nil
  | truth
  | int
  | float
  | text
  | symbol
  | keyword
  | quote
  | cell
  | list
  | tuple
  | table
  | octets
  | complex
  | object
  | foreign (name : String)
  deriving DecidableEq, Repr

/-- The word for a kind in messages. -/
def Kind.label : Kind → String
  | .absent => "NoneType"
  | .nil => "NilType"
  | .truth => "bool"
  | .int => "int"
  | .float => "float"
  | .text => "str"
  | .symbol => "Atom"
  | .keyword => "Keyword"
  | .quote => "Quote"
  | .cell => "Cell"
  | .list => "list"
  | .tuple => "tuple"
  | .table => "dict"
  | .octets => "bytes"
  | .complex => "complex"
  | .object => "object"
  | .foreign name => name

namespace Value

/-- The kind of a value. -/
def kind : Value → Kind
  | .absent => .absent
  | .nil => .nil
  | .truth _ => .truth
  | .int _ => .int
  | .float _ => .float
  | .text _ => .text
  | .symbol _ => .symbol
  | .keyword _ => .keyword
  | .quote _ => .quote
  | .cell _ _ => .cell
  | .list _ => .list
  | .tuple _ => .tuple
  | .table _ => .table
  | .octets _ => .octets
  | .complex _ _ => .complex
  | .object _ => .object
  | .foreign kind _ => .foreign kind

/-- Nil and the absent value are both read as nil. -/
def isNil : Value → Bool
  | .absent => true
  | .nil => true
  | _ => false

/-- A value counts as true unless it is nil, absent, false, a zero or empty. -/
def isTrue : Value → Bool
  | .absent => false
  | .nil => false
  | .truth value => value
  | .int value => value != 0
  | .float value => !value.isZero
  | .text value => !value.isEmpty
  | .list items => !items.isEmpty
  | .tuple items => !items.isEmpty
  | .table entries => !entries.isEmpty
  | .octets value => !value.isEmpty
  | .complex real imaginary => !(real.isZero && imaginary.isZero)
  | _ => true

end Value

end EmacsSession
