/-
This file defines the blank characters and the trimming of text.
-/

namespace EmacsSession.Text

/-- The blank characters are the white space, separator and line break characters. -/
def isBlank (character : Char) : Bool :=
  let code := character.toNat
  (9 ≤ code && code ≤ 13) || (0x1C ≤ code && code ≤ 0x20) || code == 0x85 || code == 0xA0 ||
    code == 0x1680 || (0x2000 ≤ code && code ≤ 0x200A) || code == 0x2028 || code == 0x2029 ||
    code == 0x202F || code == 0x205F || code == 0x3000

/-- The text without its leading blanks. -/
def trimStart (text : List Char) : List Char :=
  text.dropWhile isBlank

/-- The text without the longest suffix whose characters all belong to the class. -/
def dropSuffix (belongs : Char → Bool) (text : List Char) : List Char :=
  (text.reverse.dropWhile belongs).reverse

/-- The text without its trailing blanks. -/
def trimEnd (text : List Char) : List Char :=
  dropSuffix isBlank text

/-- The text without its leading and trailing blanks. -/
def trim (text : List Char) : List Char :=
  trimEnd (trimStart text)

/-- A text is blank when it has no character other than blanks; the empty text is blank. -/
def allBlank (text : List Char) : Bool :=
  text.all isBlank

/-- The blank octets are the ASCII white space characters without the separators. -/
def isBlankOctet (octet : UInt8) : Bool :=
  (9 ≤ octet && octet ≤ 13) || octet == 0x20

end EmacsSession.Text
