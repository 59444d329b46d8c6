/-
This file colours text by codes inside it.
-/

namespace EmacsSession.Log

/-- The codes that switch a colour on and off. -/
structure Colour where
  switchOn : List Char
  switchOff : List Char
  deriving DecidableEq, Repr

/-- Every occurrence is put between two texts. The length of the occurrence at the head of a text is
given, zero where there is none; the characters of an occurrence that was written are skipped. -/
def surroundFrom (occurrence : List Char → Nat) (before behind : List Char) :
    Nat → List Char → List Char
  | _, [] => []
  | skip + 1, _ :: rest => surroundFrom occurrence before behind skip rest
  | 0, character :: rest =>
      match occurrence (character :: rest) with
      | 0 => character :: surroundFrom occurrence before behind 0 rest
      | length + 1 =>
          before ++ character :: rest.take length ++ behind ++
            surroundFrom occurrence before behind length rest

/-- The occurrence of a code at the head of a text. -/
def codeAt (code text : List Char) : Nat :=
  if code.isPrefixOf text then code.length else 0

/-- The code that resets everything. -/
def resetCode : List Char := ['\x1b', '[', '0', 'm']

/-- The characters up to the end of the next reset in the line. -/
def resetWithin? : List Char → Option Nat
  | [] => none
  | character :: rest =>
      if resetCode.isPrefixOf (character :: rest) then some resetCode.length
      else if character == '\n' then none
      else (resetWithin? rest).map (· + 1)

/-- The shortest stretch from a reset to the next one in the same line. -/
def resetStretchAt (text : List Char) : Nat :=
  if resetCode.isPrefixOf text then
    match resetWithin? (text.drop resetCode.length) with
    | some length => resetCode.length + length
    | none => 0
  else 0

/-- The end of a line, with the carriage return in front of it. -/
def lineEndAt : List Char → Nat
  | '\r' :: '\n' :: _ => 2
  | '\n' :: _ => 1
  | _ => 0

namespace Colour

/-- The colour of a number among the sixteen. -/
def ofNumber (number : Nat) : Colour where
  switchOn := '\x1b' :: '[' :: Nat.toDigits 10 number ++ ['m']
  switchOff := ['\x1b', '[', '3', '9', 'm']

/-- No colour changes no text. -/
def off : Colour := ⟨[], []⟩

/-- The colour is switched on again behind each code that switches it off. -/
def reopened (colour : Colour) (text : List Char) : List Char :=
  surroundFrom (codeAt colour.switchOff) [] colour.switchOn 0 text

/-- The colour is switched off around each stretch between resets. -/
def spared (colour : Colour) (text : List Char) : List Char :=
  surroundFrom resetStretchAt colour.switchOff colour.switchOn 0 text

/-- The colour is switched off around each line end. -/
def brokenAtLines (colour : Colour) (text : List Char) : List Char :=
  surroundFrom lineEndAt colour.switchOff colour.switchOn 0 text

/-- The text in the colour. -/
def paint (colour : Colour) (text : List Char) : List Char :=
  colour.switchOn ++ colour.brokenAtLines (colour.spared (colour.reopened text)) ++ colour.switchOff

end Colour

end EmacsSession.Log
