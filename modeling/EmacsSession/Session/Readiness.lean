/-
This file waits for the ready marker in the diagnostics of a daemon.
-/

import EmacsSession.Text.Blank
import EmacsSession.Utf8.Decoder

namespace EmacsSession

/-- The text behind the first occurrence of a marker. -/
def textBehind? (marker : List Char) : List Char → Option (List Char)
  | [] => if marker.isEmpty then some [] else none
  | character :: rest =>
      if marker.isPrefixOf (character :: rest) then
        some ((character :: rest).drop marker.length)
      else textBehind? marker rest

/-- The last characters of a text. -/
def lastCharacters (count : Nat) (text : List Char) : List Char :=
  text.drop (text.length - count)

/-- What is kept between two chunks: the decoder and the end of the text, in which a marker may have
begun. -/
structure Readiness where
  decoder : Utf8.Decoder := .idle
  tail : List Char := []

namespace Readiness

/-- What a reader knows after a chunk. -/
inductive Outcome where
  /-- The marker has not been shown. -/
  | waiting (readiness : Readiness)
  /-- The marker has been shown, with the text behind it. -/
  | ready (decoder : Utf8.Decoder) (rest : List Char)
  /-- A marker without characters cannot be looked for. -/
  | emptyMarker

/-- One chunk: its text, and what is known after it. -/
def feed (marker : List Char) (readiness : Readiness) (chunk : List UInt8) :
    List Char × Outcome :=
  let (decoder, text) := readiness.decoder.feed chunk
  let seen := readiness.tail ++ text
  if marker.isEmpty then (text, .emptyMarker)
  else match textBehind? marker seen with
    | some rest => (text, .ready decoder rest)
    | none => (text, .waiting ⟨decoder, lastCharacters (marker.length - 1) seen⟩)

/-- The result of reading chunks until the marker is shown. -/
structure Result where
  /-- The texts of the chunks that were read. -/
  texts : List (List Char)
  outcome : Outcome
  /-- The chunks that were not read. -/
  left : List (List UInt8)

/-- The chunks are read in order up to the one that shows the marker. -/
def run (marker : List Char) (readiness : Readiness) : List (List UInt8) → Result
  | [] => ⟨[], .waiting readiness, []⟩
  | chunk :: chunks =>
      match feed marker readiness chunk with
      | (text, .waiting next) =>
          let result := run marker next chunks
          { result with texts := text :: result.texts }
      | (text, outcome) => ⟨[text], outcome, chunks⟩

end Readiness

end EmacsSession
