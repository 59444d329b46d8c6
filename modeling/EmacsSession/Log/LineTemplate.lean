/-
This file tells which texts are templates of log lines.
-/

import EmacsSession.Fault
import EmacsSession.Template.Basic
import EmacsSession.Text.Digit
import EmacsSession.Text.Letter

namespace EmacsSession.Log

/-- The template of lines unless another is given. -/
def standardTemplate : String := "[%(levelname)s] %(name)s: %(message)s"

/-- The template that an empty text stands for. -/
def bareTemplate : String := "%(message)s"

/-- The conversions that a field may have, in any case; the last three are letters whose case
differs from one of the others. -/
def fieldConversions : List Char :=
  "diouxefgcrsa%DIOUXEFGCRSA".toList ++ ['\u0130', '\u0131', '\u017F']

/-- The text behind an amount, which is a star or a number in any script. -/
def behindAmount : List Char → List Char
  | '*' :: rest => rest
  | text => text.dropWhile fun character => (Text.decimalValue? character).isSome

/-- The text behind a precision. A point without an amount is none. -/
def behindPrecision : List Char → List Char
  | '.' :: rest =>
      let behind := behindAmount rest
      if behind.length < rest.length then behind else '.' :: rest
  | text => text

/-- A field with a conversion begins the text. -/
def beginsField : List Char → Bool
  | '%' :: '(' :: rest =>
      let name := rest.takeWhile Text.isLetter
      match rest.drop name.length with
      | ')' :: rest =>
          !name.isEmpty &&
            match behindPrecision (behindAmount (rest.dropWhile Template.isFlag)) with
            | conversion :: _ => fieldConversions.contains conversion
            | [] => false
      | _ => false
  | _ => false

/-- A field with a conversion stands somewhere in the text. -/
def hasField : List Char → Bool
  | [] => false
  | character :: rest => beginsField (character :: rest) || hasField rest

/-- The template of lines that a text gives. A text without a field gives none. -/
def lineTemplate (text : String) : Except Fault String :=
  if text.isEmpty then .ok bareTemplate
  else if hasField text.toList then .ok text
  else .error (.fieldless text)

end EmacsSession.Log
