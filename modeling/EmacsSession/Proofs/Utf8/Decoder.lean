/-
This file shows that the chunks in which octets come do not matter to the decoder.
-/

import EmacsSession.Utf8.Decoder

namespace EmacsSession.Utf8.Decoder

/-- What is held goes in front of the text of the chunk. -/
theorem feedOnto_eq (held : List Char) (decoder : Decoder) (octets : List UInt8) :
    feedOnto held decoder octets =
      ((decoder.feed octets).1, held.reverse ++ (decoder.feed octets).2) := by
  induction octets generalizing held decoder with
  | nil => simp [feed, feedOnto]
  | cons octet octets inductionHypothesis =>
      simp only [feed, feedOnto]
      rw [inductionHypothesis, inductionHypothesis (_ ++ [])]
      simp

@[simp] theorem feed_nil (decoder : Decoder) : decoder.feed [] = (decoder, []) := rfl

theorem feed_cons (decoder : Decoder) (octet : UInt8) (octets : List UInt8) :
    decoder.feed (octet :: octets) =
      (((decoder.step octet).1.feed octets).1,
        (decoder.step octet).2 ++ ((decoder.step octet).1.feed octets).2) := by
  change feedOnto ((decoder.step octet).2.reverse ++ []) (decoder.step octet).1 octets = _
  rw [feedOnto_eq]
  simp

/-- Two chunks give the decoder and the text of one. -/
theorem feed_append (decoder : Decoder) (first second : List UInt8) :
    decoder.feed (first ++ second) =
      (((decoder.feed first).1.feed second).1,
        (decoder.feed first).2 ++ ((decoder.feed first).1.feed second).2) := by
  induction first generalizing decoder with
  | nil => simp
  | cons octet octets inductionHypothesis =>
      simp only [List.cons_append, feed_cons, inductionHypothesis, List.append_assoc]

end EmacsSession.Utf8.Decoder
