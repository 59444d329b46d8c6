/-
This file names what can go wrong when a template is filled, with the message for each.
-/

import EmacsSession.Text.Quoted
import EmacsSession.Value.Basic

namespace EmacsSession.Template

/-- The reasons why a template cannot be filled. -/
inductive Flaw where
  /-- The template asks for more values than there are. -/
  | tooFewArguments
  /-- The template asks for fewer values than there are. -/
  | tooManyArguments
  /-- The template names a field where there are values without names. -/
  | noTable
  /-- The template ends inside the name of a field. -/
  | openField
  /-- There is no value of this name. -/
  | noField (name : String)
  /-- The template ends inside a directive. -/
  | unfinished
  /-- The width is written with too large a number. -/
  | widthTooBig
  /-- The precision is written with too large a number. -/
  | precisionTooBig
  /-- A width or a precision is taken from a value that is no integer. -/
  | amountKind
  /-- The width is taken from too large an integer. -/
  | widthOverflow
  /-- The precision is taken from too large an integer. -/
  | precisionOverflow
  /-- An integer cannot be written with that many digits. -/
  | precisionTooLarge
  /-- The text would be too long. -/
  | tooLong
  /-- The conversion needs a number. -/
  | numberKind (conversion : Char) (kind : Kind)
  /-- The conversion needs an integer. -/
  | integerKind (conversion : Char) (kind : Kind)
  /-- A conversion with decimal places needs a real number. -/
  | realKind (kind : Kind)
  /-- An integer is larger than every number with decimal places. -/
  | realOverflow
  /-- An infinity has no integer part. -/
  | infiniteInteger
  /-- What is no number has no integer part. -/
  | undefinedInteger
  /-- A character is neither given as one nor by its code. -/
  | characterKind
  /-- There is no character of the code. -/
  | characterRange
  /-- There is no such conversion. -/
  | conversion (character : Char) (place : Nat)
  deriving DecidableEq, Repr

/-- A character as it is shown in messages: anything but plain ASCII is replaced. -/
def shownCharacter (character : Char) : Char :=
  if 0x1F ≤ character.toNat && character.toNat ≤ 0x7E then character else '?'

/-- The message for a flaw. -/
def Flaw.message : Flaw → String
  | .tooFewArguments => "not enough arguments for format string"
  | .tooManyArguments => "not all arguments converted during string formatting"
  | .noTable => "format requires a mapping"
  | .openField => "incomplete format key"
  | .noField name => Text.quoted name
  | .unfinished => "incomplete format"
  | .widthTooBig => "width too big"
  | .precisionTooBig => "precision too big"
  | .amountKind => "* wants int"
  | .widthOverflow => "Python int too large to convert to C ssize_t"
  | .precisionOverflow => "Python int too large to convert to C int"
  | .precisionTooLarge => "precision too large"
  | .tooLong => ""
  | .numberKind letter kind =>
      "%" ++ String.singleton letter ++ " format: a real number is required, not " ++ kind.label
  | .integerKind letter kind =>
      "%" ++ String.singleton letter ++ " format: an integer is required, not " ++ kind.label
  | .realKind kind => "must be real number, not " ++ kind.label
  | .realOverflow => "int too large to convert to float"
  | .infiniteInteger => "cannot convert float infinity to integer"
  | .undefinedInteger => "cannot convert float NaN to integer"
  | .characterKind => "%c requires int or char"
  | .characterRange => "%c arg not in range(0x110000)"
  | .conversion character place =>
      "unsupported format character '" ++ String.singleton (shownCharacter character) ++ "' (0x" ++
        String.ofList (Nat.toDigits 16 character.toNat) ++ ") at index " ++ toString place

end EmacsSession.Template
