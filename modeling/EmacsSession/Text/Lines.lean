/-
This file cuts text into lines that keep their terminators.
-/

namespace EmacsSession.Text

/-- The line boundaries are the vertical white space and separator characters. -/
def isLineBoundary (character : Char) : Bool :=
  let code := character.toNat
  (10 ≤ code && code ≤ 13) || (0x1C ≤ code && code ≤ 0x1E) || code == 0x85 ||
    code == 0x2028 || code == 0x2029

/-- The character is put in front of the first line. -/
def extendFirstLine (character : Char) : List (List Char) → List (List Char)
  | [] => [[character]]
  | line :: lines => (character :: line) :: lines

/-- A line ends after each boundary, and a carriage return with the line feed behind it is one
boundary. -/
def lines : List Char → List (List Char)
  | [] => []
  | '\r' :: '\n' :: rest => ['\r', '\n'] :: lines rest
  | character :: rest =>
      if isLineBoundary character then [character] :: lines rest
      else extendFirstLine character (lines rest)

end EmacsSession.Text
