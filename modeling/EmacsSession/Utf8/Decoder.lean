/-
This file decodes octets that come in chunks.
-/

import EmacsSession.Utf8.Basic

namespace EmacsSession.Utf8

/-- The decoder between two octets. -/
inductive Decoder where
  /-- No character is begun. -/
  | idle
  /-- A character is begun: its bits so far, the range of the next octet, and the number of octets
  behind that one. -/
  | within (bits : Nat) (next : OctetRange) (further : Nat)
  deriving DecidableEq, Repr

namespace Decoder

/-- The decoder and the text after the first octet of a character. -/
def enter (octet : UInt8) : Decoder × List Char :=
  let code := octet.toNat
  if octet < 0x80 then (.idle, [Char.ofNat code])
  else if octet < 0xC2 then (.idle, [replacement])
  else if octet < 0xE0 then (.within (code - 0xC0) continuation 0, [])
  else if octet == 0xE0 then (.within 0 ⟨0xA0, 0xBF⟩ 1, [])
  else if octet == 0xED then (.within 0xD ⟨0x80, 0x9F⟩ 1, [])
  else if octet < 0xF0 then (.within (code - 0xE0) continuation 1, [])
  else if octet == 0xF0 then (.within 0 ⟨0x90, 0xBF⟩ 2, [])
  else if octet < 0xF4 then (.within (code - 0xF0) continuation 2, [])
  else if octet == 0xF4 then (.within 4 ⟨0x80, 0x8F⟩ 2, [])
  else (.idle, [replacement])

/-- One octet: an octet out of range replaces what was begun and starts anew. -/
def step : Decoder → UInt8 → Decoder × List Char
  | .idle, octet => enter octet
  | .within bits next further, octet =>
      if next.holds octet then
        let bits := bits * 64 + (octet.toNat - 0x80)
        match further with
        | 0 => (.idle, [Char.ofNat bits])
        | further + 1 => (.within bits continuation further, [])
      else
        let (decoder, text) := enter octet
        (decoder, replacement :: text)

/-- A chunk of octets behind a begun text, which is held last character first. -/
def feedOnto (held : List Char) : Decoder → List UInt8 → Decoder × List Char
  | decoder, [] => (decoder, held.reverse)
  | decoder, octet :: octets =>
      let (decoder, text) := decoder.step octet
      feedOnto (text.reverse ++ held) decoder octets

/-- The decoder after a chunk of octets, and the text of the chunk. -/
def feed (decoder : Decoder) (octets : List UInt8) : Decoder × List Char :=
  feedOnto [] decoder octets

/-- The text that stands for a character left unfinished. -/
def finish : Decoder → List Char
  | .idle => []
  | .within _ _ _ => [replacement]

end Decoder

end EmacsSession.Utf8
