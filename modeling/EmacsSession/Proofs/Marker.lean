/-
This file shows that the chunks in which diagnostics come do not matter to where the ready marker is
found, and that it is found with the first chunk that shows it.
-/

import EmacsSession.Proofs.Readiness

namespace EmacsSession

/-- The text that chunks show so far. What is no character is replaced, and a character that is
begun is held back. -/
def textOf (chunks : List (List UInt8)) : List Char :=
  (Utf8.Decoder.idle.feed chunks.flatten).2

/-- The first occurrence of a marker in a text has this before it and the rest behind it. -/
structure IsFirst (marker text before rest : List Char) : Prop where
  cut : text = before ++ marker ++ rest
  first : ∀ earlier later, text = earlier ++ marker ++ later → before.length ≤ earlier.length

section Text

variable {marker text tail rest : List Char}

theorem IsFirst.isInfix {before : List Char} (first : IsFirst marker text before rest) :
    marker <:+: text :=
  ⟨before, rest, first.cut.symm⟩

theorem isFirst_of_textBehind? (found : textBehind? marker text = some rest) :
    ∃ before, IsFirst marker text before rest := by
  induction text with
  | nil =>
      cases marker with
      | nil =>
          cases found
          exact ⟨[], rfl, fun _ _ _ => Nat.zero_le _⟩
      | cons character marker => cases found
  | cons character text inductionHypothesis =>
      rw [textBehind?] at found
      split at found
      next starts =>
        cases found
        obtain ⟨later, same⟩ := List.isPrefixOf_iff_prefix.mp starts
        refine ⟨[], ?_, fun _ _ _ => Nat.zero_le _⟩
        rw [← same, List.drop_left, List.nil_append]
      next other =>
        obtain ⟨before, cut, first⟩ := inductionHypothesis found
        refine ⟨character :: before, by rw [cut]; rfl, fun earlier later same => ?_⟩
        cases earlier with
        | nil => exact absurd (List.isPrefixOf_iff_prefix.mpr ⟨later, same.symm⟩) other
        | cons next earlier =>
            rw [List.cons_append, List.cons_append, List.cons.injEq] at same
            exact Nat.succ_le_succ (first earlier later same.2)

theorem not_isInfix_of_textBehind? (missing : textBehind? marker text = none) :
    ¬ marker <:+: text := by
  induction text with
  | nil =>
      rintro ⟨earlier, later, same⟩
      obtain ⟨-, rfl, -⟩ : earlier = [] ∧ marker = [] ∧ later = [] := by simpa using same
      cases missing
  | cons character text inductionHypothesis =>
      rw [textBehind?] at missing
      split at missing
      next => cases missing
      next other =>
        rw [List.infix_cons_iff, ← List.isPrefixOf_iff_prefix, not_or]
        exact ⟨other, inductionHypothesis missing⟩

/-- What is before the last characters of a text, as many as a marker has but one, does not matter
to where the marker is found, if the text does not show it. -/
theorem textBehind?_append {front : List Char}
    (short : front ≠ [] → marker.length ≤ tail.length + 1) (hidden : ¬ marker <:+: front ++ tail)
    (text : List Char) :
    textBehind? marker (front ++ (tail ++ text)) = textBehind? marker (tail ++ text) := by
  induction front with
  | nil => rfl
  | cons character front inductionHypothesis =>
      have elsewhere : ¬ marker.isPrefixOf (character :: (front ++ (tail ++ text))) := by
        rw [List.isPrefixOf_iff_prefix]
        intro starts
        -- The marker would have ended within the text that does not show it.
        have within : character :: (front ++ tail) <+: character :: (front ++ (tail ++ text)) :=
          ⟨text, by simp⟩
        have long : marker.length ≤ (character :: (front ++ tail)).length := by
          have := short (List.cons_ne_nil _ _)
          simp only [List.length_cons, List.length_append]
          omega
        exact hidden (List.prefix_of_prefix_length_le starts within long).isInfix
      have rest : ¬ marker <:+: front ++ tail :=
        fun inside => hidden (inside.trans (List.suffix_cons _ _).isInfix)
      rw [List.cons_append, textBehind?, if_neg elsewhere]
      exact inductionHypothesis (fun _ => short (List.cons_ne_nil _ _)) rest

theorem length_lastCharacters (count : Nat) (text : List Char) :
    (lastCharacters count text).length = min count text.length := by
  rw [lastCharacters, List.length_drop]
  omega

theorem lastCharacters_append (count : Nat) (text more : List Char) :
    lastCharacters count (lastCharacters count text ++ more) =
      lastCharacters count (text ++ more) := by
  rw [lastCharacters, List.length_append, length_lastCharacters, lastCharacters, lastCharacters,
    List.drop_append, List.drop_append, List.drop_drop, List.length_append, List.length_drop]
  congr 2 <;> omega

/-- The last characters of a text are enough to find a marker that begins in it. -/
theorem textBehind?_lastCharacters (hidden : ¬ marker <:+: text) (more : List Char) :
    textBehind? marker (lastCharacters (marker.length - 1) text ++ more) =
      textBehind? marker (text ++ more) := by
  have cut := List.take_append_drop (text.length - (marker.length - 1)) text
  have whole : text ++ more = text.take (text.length - (marker.length - 1)) ++
      (lastCharacters (marker.length - 1) text ++ more) := by
    rw [lastCharacters, ← List.append_assoc, cut]
  rw [whole, textBehind?_append]
  · intro some
    have left := List.length_pos_iff.mpr some
    rw [List.length_take] at left
    rw [length_lastCharacters]
    omega
  · rwa [lastCharacters, cut]

theorem textOf_append (first second : List (List UInt8)) :
    textOf (first ++ second) =
      textOf first ++ ((Utf8.Decoder.idle.feed first.flatten).1.feed second.flatten).2 := by
  rw [textOf, List.flatten_append, Utf8.Decoder.feed_append, textOf]

end Text

/-- With the last one of these chunks, and with none before, the text shows the marker. -/
structure Completes (marker : List Char) (chunks : List (List UInt8)) : Prop where
  hidden : ¬ marker <:+: textOf chunks.dropLast
  shown : marker <:+: textOf chunks

/-- No fewer chunks show a marker than those of which the last one completes it. -/
theorem Completes.least {marker : List Char} {chunks front : List (List UInt8)}
    (completes : Completes marker chunks) (earlier : front <+: chunks)
    (shown : marker <:+: textOf front) : front = chunks := by
  obtain ⟨more, rfl⟩ := earlier
  by_cases none : more = []
  · rw [none, List.append_nil]
  · refine absurd ?_ completes.hidden
    rw [List.dropLast_append_of_ne_nil none, textOf_append]
    exact shown.trans (List.prefix_append _ _).isInfix

namespace Readiness

/-- What a reader knows who has read these chunks and has not seen the marker. -/
def after (marker : List Char) (chunks : List (List UInt8)) : Readiness :=
  ⟨(Utf8.Decoder.idle.feed chunks.flatten).1, lastCharacters (marker.length - 1) (textOf chunks)⟩

/-- The result of reading chunks behind earlier ones: the marker is found with the first chunk that
shows it, or all chunks are read and none does. -/
inductive Finds (marker : List Char) (earlier chunks : List (List UInt8)) : Result → Prop
  | shown {texts : List (List Char)} {taken left : List (List UInt8)} {before rest : List Char}
      (cut : chunks = taken ++ left) (completes : Completes marker (earlier ++ taken))
      (first : IsFirst marker (textOf (earlier ++ taken)) before rest)
      (count : texts.length = taken.length) :
      Finds marker earlier chunks
        ⟨texts, .ready (Utf8.Decoder.idle.feed (earlier ++ taken).flatten).1 rest, left⟩
  | hidden {texts : List (List Char)} (hidden : ¬ marker <:+: textOf (earlier ++ chunks))
      (count : texts.length = chunks.length) :
      Finds marker earlier chunks ⟨texts, .waiting (after marker (earlier ++ chunks)), []⟩

section Finding

variable {marker : List Char} {earlier : List (List UInt8)}

/-- A chunk is read as if all text were kept. -/
theorem feed_after (letters : marker ≠ []) (hidden : ¬ marker <:+: textOf earlier)
    (chunk : List UInt8) :
    (feed marker (after marker earlier) chunk).2 =
      match textBehind? marker (textOf (earlier ++ [chunk])) with
      | some rest => .ready (Utf8.Decoder.idle.feed (earlier ++ [chunk]).flatten).1 rest
      | none => .waiting (after marker (earlier ++ [chunk])) := by
  have some : marker.isEmpty = false := by simpa using letters
  have text : textOf (earlier ++ [chunk]) =
      textOf earlier ++ ((Utf8.Decoder.idle.feed earlier.flatten).1.feed chunk).2 := by
    rw [textOf_append, List.flatten_singleton]
  have decoder : (Utf8.Decoder.idle.feed (earlier ++ [chunk]).flatten).1 =
      ((Utf8.Decoder.idle.feed earlier.flatten).1.feed chunk).1 := by
    rw [List.flatten_append, Utf8.Decoder.feed_append, List.flatten_singleton]
  rw [feed]
  simp only [some, Bool.false_eq_true, if_false]
  rw [after, after, textBehind?_lastCharacters hidden, lastCharacters_append, text, decoder]
  cases textBehind? marker
    (textOf earlier ++ ((Utf8.Decoder.idle.feed earlier.flatten).1.feed chunk).2) <;> rfl

/-- Reading on behind chunks that do not show the marker finds it with the first chunk that does. -/
theorem run_finds (letters : marker ≠ []) (hidden : ¬ marker <:+: textOf earlier)
    (chunks : List (List UInt8)) :
    Finds marker earlier chunks (run marker (after marker earlier) chunks) := by
  induction chunks generalizing earlier with
  | nil =>
      have none : earlier ++ [] = earlier := List.append_nil earlier
      have waits : Finds marker earlier [] ⟨[], .waiting (after marker (earlier ++ [])), []⟩ :=
        .hidden (none.symm ▸ hidden) rfl
      rwa [none] at waits
  | cons chunk chunks inductionHypothesis =>
      have fed := feed_after letters hidden chunk
      have regroup (others : List (List UInt8)) :
          earlier ++ [chunk] ++ others = earlier ++ chunk :: others := by simp
      rw [run]
      cases found : textBehind? marker (textOf (earlier ++ [chunk])) with
      | some rest =>
          rw [found] at fed
          obtain ⟨before, first⟩ := isFirst_of_textBehind? found
          split
          next same =>
            rw [same] at fed
            cases fed
          next text outcome _ same =>
            rw [same] at fed
            subst fed
            have cut : chunk :: chunks = [chunk] ++ chunks := rfl
            refine .shown cut ⟨?_, first.isInfix⟩ first rfl
            rwa [List.dropLast_concat]
      | none =>
          rw [found] at fed
          have still := not_isInfix_of_textBehind? found
          split
          next text next same =>
            rw [same] at fed
            cases fed
            have finds := inductionHypothesis still
            generalize run marker (after marker (earlier ++ [chunk])) chunks = result at finds ⊢
            cases finds with
            | @shown _ taken left _ _ cut completes first count =>
                rw [regroup] at completes first ⊢
                exact .shown (by rw [cut]; rfl) completes first (by simp [count])
            | hidden hides count =>
                rw [regroup] at hides ⊢
                exact .hidden hides (by simp [count])
          next text outcome other same =>
            rw [same] at fed
            exact absurd fed (other _)

end Finding

end Readiness

end EmacsSession
