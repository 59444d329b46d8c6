/-
This file encodes text as octets and decodes octets as a whole.
-/

namespace EmacsSession.Utf8

/-- The character that stands for octets that are no text. -/
def replacement : Char := '\uFFFD'

/-- A range of octets, both ends included. -/
structure OctetRange where
  low : UInt8
  high : UInt8
  deriving DecidableEq, Repr

/-- The range holds the octet. -/
def OctetRange.holds (range : OctetRange) (octet : UInt8) : Bool :=
  range.low ≤ octet && octet ≤ range.high

/-- The octets that continue a character. -/
def continuation : OctetRange := ⟨0x80, 0xBF⟩

/-- The forms of encoded characters: the ranges of their octets in order. Forms that would encode a
character in more octets than it needs, a surrogate or a code beyond the last one are left out. -/
def characterForms : List (List OctetRange) := [
    [⟨0x00, 0x7F⟩],
    [⟨0xC2, 0xDF⟩, continuation],
    [⟨0xE0, 0xE0⟩, ⟨0xA0, 0xBF⟩, continuation],
    [⟨0xE1, 0xEC⟩, continuation, continuation],
    [⟨0xED, 0xED⟩, ⟨0x80, 0x9F⟩, continuation],
    [⟨0xEE, 0xEF⟩, continuation, continuation],
    [⟨0xF0, 0xF0⟩, ⟨0x90, 0xBF⟩, continuation, continuation],
    [⟨0xF1, 0xF3⟩, continuation, continuation, continuation],
    [⟨0xF4, 0xF4⟩, ⟨0x80, 0x8F⟩, continuation, continuation]]

/-- The number of octets at the head that fit the ranges one after the other. -/
def fitting : List OctetRange → List UInt8 → Nat
  | range :: ranges, octet :: octets => if range.holds octet then fitting ranges octets + 1 else 0
  | _, _ => 0

/-- The code of the octets of one character: the bits behind the length mark of the first octet, and
six bits of each further one. -/
def codeOf : List UInt8 → Nat
  | [] => 0
  | [octet] => octet.toNat
  | first :: rest =>
      rest.foldl (fun code octet => code * 64 + octet.toNat % 64)
        (first.toNat % Nat.pow 2 (6 - rest.length))

/-- The character at the head, and the number of its octets. Octets that begin a character without
completing it are replaced together, and an octet that begins none is replaced alone. -/
def head (octets : List UInt8) : Char × Nat :=
  match characterForms.find? fun form => fitting form octets != 0 with
  | none => (replacement, 1)
  | some form =>
      let length := fitting form octets
      if length == form.length then (Char.ofNat (codeOf (octets.take length)), length)
      else (replacement, length)

/-- The text of the octets behind a begun text, which is held last character first; a count of
octets that belong to its last character is skipped. -/
def decodeOnto (held : List Char) : Nat → List UInt8 → List Char
  | _, [] => held.reverse
  | skip + 1, _ :: octets => decodeOnto held skip octets
  | 0, octet :: octets =>
      let (character, length) := head (octet :: octets)
      decodeOnto (character :: held) (length - 1) octets

/-- The text of all the octets at once. -/
def decode (octets : List UInt8) : List Char :=
  decodeOnto [] 0 octets

/-- The octets of a text. -/
def encode (text : String) : List UInt8 :=
  text.toUTF8.toList

end EmacsSession.Utf8
