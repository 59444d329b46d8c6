/-
This file cuts templates into pieces: characters, and directives that stand for values.
-/

namespace EmacsSession.Template

/-- The name of the value that a directive stands for. -/
inductive Field where
  | absent
  | named (name : String)
  /-- The template ends inside the name. -/
  | unclosed
  deriving DecidableEq, Repr

/-- A width or a precision: written in the template, or taken from a value. -/
inductive Amount where
  | written (number : Nat)
  | taken
  deriving DecidableEq, Repr

/-- The flags of a directive. -/
structure Flags where
  leftAligned : Bool := false
  /-- A number that is not negative gets a plus sign. -/
  signed : Bool := false
  /-- A number that is not negative gets a blank where a sign would be. -/
  spaced : Bool := false
  /-- The base of an integer is marked, and a number with decimal places keeps its point. -/
  marked : Bool := false
  zeroFilled : Bool := false
  deriving DecidableEq, Repr

/-- A directive: the value that it stands for, how the value is set, and the conversion with its
place in the template, unless the template ends before it. -/
structure Directive where
  field : Field
  flags : Flags
  width : Option Amount
  precision : Option Amount
  conversion : Option (Char × Nat)
  deriving DecidableEq, Repr

/-- A piece of a template. -/
inductive Piece where
  | character (value : Char)
  | directive (value : Directive)
  deriving DecidableEq, Repr

/-- The number of characters in front of the bracket that closes the ones that are open. -/
def closing? : Nat → List Char → Option Nat
  | _, [] => none
  | depth, character :: rest =>
      if character == ')' then
        match depth with
        | 0 => some 0
        | depth + 1 => (closing? depth rest).map (· + 1)
      else (closing? (if character == '(' then depth + 1 else depth) rest).map (· + 1)

/-- The name at the head of a directive stands between brackets. -/
def readField : List Char → Field × List Char
  | '(' :: rest =>
      match closing? 0 rest with
      | some length => (.named (String.ofList (rest.take length)), rest.drop (length + 1))
      | none => (.unclosed, [])
  | text => (.absent, text)

/-- The characters of flags. -/
def isFlag (character : Char) : Bool :=
  ['-', '+', ' ', '#', '0'].contains character

/-- The flags that the characters stand for. -/
def Flags.ofList (characters : List Char) : Flags where
  leftAligned := characters.contains '-'
  signed := characters.contains '+'
  spaced := characters.contains ' '
  marked := characters.contains '#'
  zeroFilled := characters.contains '0'

/-- An amount is a number or a star. -/
def readAmount : List Char → Option Amount × List Char
  | '*' :: rest => (some .taken, rest)
  | text =>
      let digits := text.takeWhile Char.isDigit
      if digits.isEmpty then (none, text)
      else (some (.written (Nat.ofDigitChars 10 digits 0)), text.drop digits.length)

/-- A precision is an amount behind a point; a lone point stands for zero. -/
def readPrecision : List Char → Option Amount × List Char
  | '.' :: rest =>
      let (amount, rest) := readAmount rest
      (some (amount.getD (.written 0)), rest)
  | text => (none, text)

/-- A letter for the size of a number has no meaning and is left out. -/
def dropSize : List Char → List Char
  | 'h' :: rest => rest
  | 'l' :: rest => rest
  | 'L' :: rest => rest
  | text => text

/-- The directive behind a percent sign at a place, and the length of its text. -/
def readDirective (place : Nat) (text : List Char) : Directive × Nat :=
  let (field, afterField) := readField text
  let flags := afterField.takeWhile isFlag
  let (width, afterWidth) := readAmount (afterField.drop flags.length)
  let (precision, afterPrecision) := readPrecision afterWidth
  let directive := Directive.mk field (.ofList flags) width precision
  match dropSize afterPrecision with
  | [] => (directive none, text.length)
  | conversion :: rest =>
      let length := text.length - rest.length
      (directive (some (conversion, place + length)), length)

/-- The pieces of a template from a place on, where a count of characters that belong to the piece
before is skipped. Two percent signs stand for one. -/
def piecesFrom : Nat → Nat → List Char → List Piece
  | _, _, [] => []
  | place, skip + 1, _ :: rest => piecesFrom (place + 1) skip rest
  | place, 0, character :: rest =>
      if character != '%' then .character character :: piecesFrom (place + 1) 0 rest
      else if rest.head? == some '%' then .character '%' :: piecesFrom (place + 1) 1 rest
      else
        let (directive, length) := readDirective place rest
        .directive directive :: piecesFrom (place + 1) length rest

/-- The pieces of a template. -/
def pieces (template : String) : List Piece :=
  piecesFrom 0 0 template.toList

end EmacsSession.Template
