/-
This file shows text between quotation marks with escapes.
-/

import EmacsSession.Text.Printable

namespace EmacsSession.Text

/-- The mark is a single quotation mark unless the text has such a mark and no double one. -/
def quotationMark (text : List Char) : Char :=
  if text.contains '\x27' && !text.contains '\x22' then '\x22' else '\x27'

/-- The lower-case hexadecimal digits of the code, filled with zeros to the width. -/
def hexadecimal (width code : Nat) : List Char :=
  let digits := Nat.toDigits 16 code
  List.replicate (width - digits.length) '0' ++ digits

/-- A code point in the shortest of the three hexadecimal escapes. -/
def escapedCode (code : Nat) : List Char :=
  if code < 0x100 then '\x5c' :: 'x' :: hexadecimal 2 code
  else if code < 0x10000 then '\x5c' :: 'u' :: hexadecimal 4 code
  else '\x5c' :: 'U' :: hexadecimal 8 code

/-- A character as it stands between the marks. -/
def escapedCharacter (mark character : Char) : List Char :=
  if character == mark || character == '\x5c' then ['\x5c', character]
  else if character == '\n' then ['\x5c', 'n']
  else if character == '\r' then ['\x5c', 'r']
  else if character == '\t' then ['\x5c', 't']
  else if isPrintable character then [character]
  else escapedCode character.toNat

/-- The text with an escape in place of each character beyond ASCII. -/
def asciiOnly (text : List Char) : List Char :=
  text.flatMap fun character =>
    if character.toNat < 0x80 then [character] else escapedCode character.toNat

/-- The text between quotation marks. -/
def quoted (text : String) : String :=
  let mark := quotationMark text.toList
  String.ofList (mark :: text.toList.flatMap (escapedCharacter mark) ++ [mark])

/-- An octet as it stands between the marks; only ASCII stands for itself. -/
def escapedOctet (mark : Char) (octet : UInt8) : List Char :=
  let character := Char.ofNat octet.toNat
  if 0x7F ≤ octet then escapedCode octet.toNat else escapedCharacter mark character

/-- The octets between quotation marks. -/
def quotedOctets (octets : List UInt8) : String :=
  let mark := quotationMark (octets.map fun octet => Char.ofNat octet.toNat)
  String.ofList (mark :: octets.flatMap (escapedOctet mark) ++ [mark])

end EmacsSession.Text
