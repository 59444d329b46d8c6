/-
This file shows what reading up to the ready marker knows about the text that was read.
-/

import EmacsSession.Proofs.Utf8.Decoder
import EmacsSession.Session.Process
import EmacsSession.Session.Readiness

namespace EmacsSession

/-- The octets of a stream that were read, first one first. -/
def Stream.read (stream : Stream) : List UInt8 :=
  stream.chunks.reverse.flatten

/-- The text that was read from a stream. -/
def Stream.shown (stream : Stream) : List Char :=
  (Utf8.Decoder.idle.feed stream.read).2

theorem Stream.read_afterReading (stream : Stream) (taken left : List (List UInt8)) :
    (stream.afterReading taken left).read = stream.read ++ taken.flatten := by
  simp [Stream.read, Stream.afterReading]

/-- A text that is found behind a marker has the marker before it. -/
theorem textBehind?_some {marker text rest : List Char}
    (found : textBehind? marker text = some rest) : marker <:+: text ∧ rest <:+ text := by
  induction text with
  | nil =>
      cases marker with
      | nil =>
          simp only [textBehind?, List.isEmpty_nil, if_true, Option.some.injEq] at found
          simp [← found]
      | cons character marker => simp [textBehind?] at found
  | cons character text inductionHypothesis =>
      rw [textBehind?] at found
      split at found
      next starts =>
        have head := List.isPrefixOf_iff_prefix.mp starts
        cases found
        exact ⟨head.isInfix, List.drop_suffix _ _⟩
      next =>
        obtain ⟨inside, behind⟩ := inductionHypothesis found
        exact ⟨inside.trans (List.suffix_cons character text).isInfix,
          behind.trans (List.suffix_cons character text)⟩

theorem lastCharacters_suffix (count : Nat) (text : List Char) :
    lastCharacters count text <:+ text :=
  List.drop_suffix _ _

namespace Readiness

/-- A reader that goes on after some octets keeps their decoder and the end of their text. -/
structure Follows (later earlier : Readiness) (octets : List UInt8) : Prop where
  decoder : later.decoder = (earlier.decoder.feed octets).1
  tail : later.tail <:+ earlier.tail ++ (earlier.decoder.feed octets).2

theorem Follows.refl (readiness : Readiness) : readiness.Follows readiness [] :=
  ⟨rfl, by simp⟩

theorem Follows.trans {last middle first : Readiness} {former latter : List UInt8}
    (second : last.Follows middle latter) (start : middle.Follows first former) :
    last.Follows first (former ++ latter) := by
  constructor
  · rw [second.decoder, start.decoder, Utf8.Decoder.feed_append]
  · rw [Utf8.Decoder.feed_append, ← List.append_assoc, ← start.decoder]
    apply second.tail.trans
    obtain ⟨before, same⟩ := start.tail
    exact ⟨before, by rw [← same, List.append_assoc]⟩

/-- What an outcome says about the octets that led to it. -/
def Outcome.Tells (marker : List Char) (earlier : Readiness) (octets : List UInt8) :
    Outcome → Prop
  | .waiting later => later.Follows earlier octets
  | .ready _ _ => marker <:+: earlier.tail ++ (earlier.decoder.feed octets).2
  | .emptyMarker => True

theorem feed_tells (marker : List Char) (readiness : Readiness) (chunk : List UInt8) :
    (feed marker readiness chunk).2.Tells marker readiness chunk := by
  rw [feed]
  dsimp only
  split
  · trivial
  · split
    next rest found => exact (textBehind?_some found).1
    next => exact ⟨rfl, lastCharacters_suffix _ _⟩

theorem Outcome.Tells.after {marker : List Char} {middle first : Readiness}
    {former latter : List UInt8} {outcome : Outcome} (tells : outcome.Tells marker middle latter)
    (start : middle.Follows first former) : outcome.Tells marker first (former ++ latter) := by
  cases outcome with
  | waiting later => exact Follows.trans tells start
  | ready decoder rest =>
      have inside : marker <:+: middle.tail ++ (middle.decoder.feed latter).2 := tells
      obtain ⟨before, same⟩ := start.tail
      rw [Outcome.Tells, Utf8.Decoder.feed_append, ← start.decoder, ← List.append_assoc, ← same,
        List.append_assoc]
      exact inside.trans (List.suffix_append _ _).isInfix
  | emptyMarker => trivial

/-- The chunks are read in order, and the outcome tells about those that were read. -/
theorem run_tells (marker : List Char) (readiness : Readiness) (chunks : List (List UInt8)) :
    (run marker readiness chunks).outcome.Tells marker readiness
        (chunks.take (run marker readiness chunks).texts.length).flatten ∧
      (run marker readiness chunks).left =
        chunks.drop (run marker readiness chunks).texts.length := by
  induction chunks generalizing readiness with
  | nil => exact ⟨Follows.refl readiness, by simp [run]⟩
  | cons chunk chunks inductionHypothesis =>
      have tells := feed_tells marker readiness chunk
      rw [run]
      split
      next text next found =>
        rw [found] at tells
        obtain ⟨told, rest⟩ := inductionHypothesis next
        exact ⟨told.after tells, rest⟩
      next text outcome _ found =>
        rw [found] at tells
        simpa using tells

end Readiness

end EmacsSession
