/-
This file shows that the chunks in which diagnostics come do not matter to the messages for them.
-/

import Mathlib.Data.List.TakeWhile
import EmacsSession.Proofs.Utf8.Decoder
import EmacsSession.Session.Diagnostics

namespace EmacsSession

namespace Text

/-- Nothing is left of a text without its leading and trailing blanks when it is blank. -/
theorem trim_eq_nil {text : List Char} : trim text = [] ↔ allBlank text := by
  have trailing : trim text = [] ↔ ∀ character ∈ trimStart text, isBlank character := by
    simp [trim, trimEnd, dropSuffix]
  rw [trailing, allBlank, List.all_eq_true]
  constructor
  · intro blank character member
    rw [← List.takeWhile_append_dropWhile (p := isBlank) (l := text)] at member
    rcases List.mem_append.mp member with leading | rest
    · exact List.mem_takeWhile_imp leading
    · exact blank character rest
  · intro blank character member
    exact blank character ((List.dropWhile_suffix isBlank).subset member)

/-- Only a carriage return and the line feed behind it make one boundary of two characters. -/
theorem lines_cons {character : Char} {rest : List Char}
    (apart : ¬ (character = '\r' ∧ rest.head? = some '\n')) :
    lines (character :: rest) =
      if isLineBoundary character then [character] :: lines rest
      else extendFirstLine character (lines rest) := by
  rw [lines]
  rintro more rfl rfl
  exact apart ⟨rfl, rfl⟩

theorem flatten_extendFirstLine (character : Char) (pieces : List (List Char)) :
    (extendFirstLine character pieces).flatten = character :: pieces.flatten := by
  cases pieces <;> rfl

/-- The lines of a text make up the text. -/
theorem flatten_lines (text : List Char) : (lines text).flatten = text := by
  induction text using lines.induct with
  | case1 => rfl
  | case2 rest inductionHypothesis => simp [lines, inductionHypothesis]
  | case3 character rest apart boundary inductionHypothesis =>
      rw [lines, if_pos boundary, List.flatten_cons, inductionHypothesis]
      · rfl
      · exact apart
  | case4 character rest apart inside inductionHypothesis =>
      rw [lines, if_neg inside, flatten_extendFirstLine, inductionHypothesis]
      exact apart

theorem lines_eq_nil {text : List Char} : lines text = [] ↔ text = [] := by
  constructor
  · intro none
    rw [← flatten_lines text, none]
    rfl
  · rintro rfl
    rfl

/-- A character that is apart from what is behind it stays so when more comes behind that. -/
theorem lines_cons_append {character : Char} {more : List Char}
    (apart : ∀ others, character = '\r' → more = '\n' :: others → False) (some : more ≠ [])
    (rest : List Char) :
    lines (character :: (more ++ rest)) =
      if isLineBoundary character then [character] :: lines (more ++ rest)
      else extendFirstLine character (lines (more ++ rest)) := by
  apply lines_cons
  rintro ⟨same, first⟩
  cases more with
  | nil => exact some rfl
  | cons next others =>
      cases first
      exact apart others same rfl

/-- A text of one line is that line. -/
theorem eq_of_lines {text line : List Char} (single : lines text = [line]) : text = line := by
  rw [← flatten_lines text, single]
  simp

/-- The last line of a text goes on in what is behind it, and the lines before it stay. -/
theorem lines_append {text last : List Char} {front : List (List Char)}
    (cut : lines text = front ++ [last]) (rest : List Char) :
    lines (text ++ rest) = front ++ lines (last ++ rest) := by
  induction text using lines.induct generalizing front with
  | case1 => simp [lines] at cut
  | case2 more inductionHypothesis =>
      cases front with
      | nil => rw [List.nil_append, eq_of_lines cut]
      | cons first front =>
          rw [lines, List.cons_append, List.cons.injEq] at cut
          obtain ⟨rfl, cut⟩ := cut
          rw [List.cons_append, List.cons_append, lines, inductionHypothesis cut, List.cons_append]
  | case3 character more apart boundary inductionHypothesis =>
      cases front with
      | nil => rw [List.nil_append, eq_of_lines cut]
      | cons first front =>
          rw [lines.eq_3 _ _ apart, if_pos boundary, List.cons_append, List.cons.injEq] at cut
          obtain ⟨rfl, cut⟩ := cut
          have some : more ≠ [] := by
            rintro rfl
            simp [lines] at cut
          rw [List.cons_append, lines_cons_append apart some, if_pos boundary,
            inductionHypothesis cut, List.cons_append]
  | case4 character more apart inside inductionHypothesis =>
      cases front with
      | nil => rw [List.nil_append, eq_of_lines cut]
      | cons first front =>
          rw [lines.eq_3 _ _ apart, if_neg inside] at cut
          cases below : lines more with
          | nil => simp [below, extendFirstLine] at cut
          | cons line pieces =>
              rw [below, extendFirstLine, List.cons_append, List.cons.injEq] at cut
              obtain ⟨rfl, rfl⟩ := cut
              have some : more ≠ [] := by
                rintro rfl
                cases below
              have front : lines more = (line :: front) ++ [last] := below
              rw [List.cons_append, lines_cons_append apart some, if_neg inside,
                inductionHypothesis front]
              rfl

end Text

namespace Diagnostics

open Text

theorem isFinished_cons {character : Char} {line : List Char} (some : line ≠ []) :
    isFinished (character :: line) = isFinished line := by
  rw [isFinished, isFinished, List.getLast?_cons, List.getLast?_eq_some_getLast some]
  rfl

/-- A line that is finished does not go on in what is behind it, but for a line feed behind a
carriage return. -/
theorem lines_append_of_isFinished {line : List Char} (single : lines line = [line])
    (finished : isFinished line) (rest : List Char) :
    lines (line ++ rest) = line :: lines rest ∨
      ∃ more, rest = '\n' :: more ∧ lines (line ++ rest) = (line ++ ['\n']) :: lines more := by
  induction line using lines.induct with
  | case1 => cases single
  | case2 more inductionHypothesis =>
      rw [lines, List.cons.injEq] at single
      obtain ⟨same, -⟩ := single
      cases same
      exact .inl (by simp [lines])
  | case3 character more apart boundary inductionHypothesis =>
      rw [lines.eq_3 _ _ apart, if_pos boundary, List.cons.injEq, List.cons.injEq] at single
      obtain ⟨⟨-, rfl⟩, -⟩ := single
      by_cases pair : character = '\r' ∧ rest.head? = some '\n'
      · obtain ⟨rfl, first⟩ := pair
        obtain ⟨more, rfl⟩ := List.head?_eq_some_iff.mp first
        exact .inr ⟨more, rfl, by simp [lines]⟩
      · left
        rw [List.singleton_append, lines_cons pair, if_pos boundary]
  | case4 character more apart inside inductionHypothesis =>
      rw [lines.eq_3 _ _ apart, if_neg inside] at single
      have some : more ≠ [] := by
        rintro rfl
        have terminator : character = '\n' ∨ character = '\r' := by
          simpa [isFinished] using finished
        rcases terminator with rfl | rfl <;> exact inside rfl
      cases below : lines more with
      | nil => exact absurd (lines_eq_nil.mp below) some
      | cons first pieces =>
          rw [below, extendFirstLine, List.cons.injEq, List.cons.injEq] at single
          obtain ⟨⟨-, rfl⟩, rfl⟩ := single
          rw [isFinished_cons some] at finished
          rw [List.cons_append, lines_cons_append apart some, if_neg inside]
          rcases inductionHypothesis below finished with separate | ⟨others, rfl, joined⟩
          · exact .inl (by rw [separate]; rfl)
          · exact .inr ⟨others, rfl, by rw [joined]; rfl⟩

/-- The text that stands for a character left unfinished goes behind the last piece, or is a piece
of its own where the last one is finished. -/
def close (final : List Char) : List (List Char) → List (List Char)
  | [] => [final]
  | [last] => if isFinished last then [last, final] else [last ++ final]
  | piece :: next :: pieces => piece :: close final (next :: pieces)

/-- The pieces that are not blank, each without the carriage returns and line feeds at its end. -/
def messages (pieces : List (List Char)) : List (List Char) :=
  (pieces.filter fun piece => trim piece != []).map
    (dropSuffix fun character => character == '\r' || character == '\n')

/-- The messages of a whole text, and of a character left unfinished behind it. -/
def messagesOf (text final : List Char) : List (List Char) :=
  messages (close final (lines text))

section Messages

variable {text : List Char} {line : List Char} {pieces : List (List Char)}

theorem messages_eq (pieces : List (List Char)) : messages pieces = pieces.filterMap message? := by
  induction pieces with
  | nil => rfl
  | cons piece pieces inductionHypothesis =>
      rw [messages, List.filterMap_cons, ← inductionHypothesis, message?]
      by_cases blank : allBlank piece
      · rw [List.filter_cons_of_neg (by simpa using trim_eq_nil.mpr blank), if_pos blank]
        rfl
      · rw [List.filter_cons_of_pos (by simpa using mt trim_eq_nil.mp blank), if_neg blank]
        rfl

theorem messages_append (first second : List (List Char)) :
    messages (first ++ second) = messages first ++ messages second := by
  simp [messages]

/-- The line feed behind a line makes no difference to the message for it. -/
theorem messages_lineFeed (line : List Char) : messages [line ++ ['\n']] = messages [line] := by
  have same : message? (line ++ ['\n']) = message? line := by
    simp [message?, allBlank, dropSuffix, isBlank]
  rw [messages_eq, messages_eq, List.filterMap_cons, same, List.filterMap_cons]

theorem close_cons (final : List Char) (goes : pieces = [] → isFinished line) :
    close final (line :: pieces) = line :: close final pieces := by
  cases pieces with
  | nil => simp [close, goes rfl]
  | cons next pieces => rw [close]

theorem close_append (final : List Char) (front : List (List Char)) (some : pieces ≠ []) :
    close final (front ++ pieces) = front ++ close final pieces := by
  induction front with
  | nil => rfl
  | cons line front inductionHypothesis =>
      rw [List.cons_append, close_cons final (by simp [some]), inductionHypothesis,
        List.cons_append]

/-- What is released of a text: all its lines, or all but the last one. -/
inductive Released (text : List Char) : Prop
  | none (empty : text = []) (same : release text = ([], []))
  | all {front : List (List Char)} {last : List Char} (cut : lines text = front ++ [last])
      (finished : isFinished last) (same : release text = (front ++ [last], []))
  | most {front : List (List Char)} {last : List Char} (cut : lines text = front ++ [last])
      (unfinished : isFinished last = false) (same : release text = (front, last))

theorem released (text : List Char) : Released text := by
  rcases List.eq_nil_or_concat (lines text) with none | ⟨front, last, cut⟩
  · exact .none (lines_eq_nil.mp none) (by rw [release, none]; rfl)
  · rw [List.concat_eq_append] at cut
    cases finished : isFinished last with
    | true => exact .all cut finished (by simp [release, cut, finished])
    | false => exact .most cut finished (by simp [release, cut, finished])

/-- The last line of a text is one line by itself. -/
theorem lines_last {front : List (List Char)} (cut : lines text = front ++ [line]) :
    lines line = [line] := by
  have again := lines_append cut []
  rw [List.append_nil, List.append_nil, cut] at again
  exact (List.append_cancel_left again).symm

theorem messages_cons (line : List Char) (pieces : List (List Char)) :
    messages (line :: pieces) = messages [line] ++ messages pieces := by
  rw [← messages_append, List.singleton_append]

/-- A finished line has its message at once, whatever comes behind it. -/
theorem messagesOf_finished (single : lines line = [line]) (finished : isFinished line)
    (rest final : List Char) :
    messagesOf (line ++ rest) final = messages [line] ++ messagesOf rest final := by
  rw [messagesOf, messagesOf]
  rcases lines_append_of_isFinished single finished rest with separate | ⟨more, rfl, joined⟩
  · rw [separate, close_cons final fun _ => finished, messages_cons]
  · -- The line feed that comes late is a line of its own, and it is blank.
    have fed : lines ('\n' :: more) = ['\n'] :: lines more := lines_cons (by simp)
    have silent : messages [['\n']] = [] := messages_lineFeed []
    rw [joined, close_cons final fun _ => by simp [isFinished], messages_cons, messages_lineFeed,
      fed, close_cons final fun _ => rfl, messages_cons ['\n'], silent, List.nil_append]

/-- What is released of a text has its messages at once, whatever comes behind the text. -/
theorem messagesOf_append (text rest final : List Char) :
    messagesOf (text ++ rest) final =
      messages (release text).1 ++ messagesOf ((release text).2 ++ rest) final := by
  have behind {front : List (List Char)} {last : List Char} (cut : lines text = front ++ [last]) :
      messagesOf (text ++ rest) final = messages front ++ messagesOf (last ++ rest) final := by
    have some : lines (last ++ rest) ≠ [] := by
      intro none
      obtain ⟨rfl, -⟩ := List.append_eq_nil_iff.mp (lines_eq_nil.mp none)
      cases lines_last cut
    rw [messagesOf, lines_append cut, close_append final front some, messages_append, messagesOf]
  cases released text with
  | none empty same =>
      rw [same, empty]
      rfl
  | most cut unfinished same => rw [same, behind cut]
  | all cut finished same =>
      rw [same, behind cut, messagesOf_finished (lines_last cut) finished, messages_append,
        List.append_assoc, List.nil_append]

/-- What is held at the end is one piece. -/
theorem messagesOf_held (text final : List Char) :
    messagesOf (release text).2 final = messages [(release text).2 ++ final] := by
  rw [messagesOf]
  cases released text with
  | none empty same => rw [same]; rfl
  | all cut finished same => rw [same]; rfl
  | most cut unfinished same =>
      rw [same, lines_last cut, close, unfinished]
      rfl

end Messages

/-- From what was kept before some octets come what is kept after them and the messages in between:
they are first among the messages of the whole text, whatever comes behind it, and what is kept
stands for all others. -/
structure Leads (before : Diagnostics) (octets : List UInt8) (sent : List (List Char))
    (after : Diagnostics) : Prop where
  decoder : after.decoder = (before.decoder.feed octets).1
  sent : ∀ rest final, messagesOf (before.held ++ (before.decoder.feed octets).2 ++ rest) final =
    sent ++ messagesOf (after.held ++ rest) final

section Leading

variable {before middle after diagnostics : Diagnostics} {octets more : List UInt8}
  {sent later : List (List Char)}

theorem Leads.refl (diagnostics : Diagnostics) : diagnostics.Leads [] [] diagnostics :=
  ⟨rfl, fun _ _ => by simp⟩

theorem Leads.trans (first : before.Leads octets sent middle)
    (second : middle.Leads more later after) :
    before.Leads (octets ++ more) (sent ++ later) after := by
  constructor
  · rw [second.decoder, first.decoder, Utf8.Decoder.feed_append]
  · intro rest final
    have next := second.sent rest final
    rw [first.decoder, List.append_assoc] at next
    rw [Utf8.Decoder.feed_append, ← List.append_assoc, List.append_assoc _ _ rest,
      first.sent, next, List.append_assoc]

theorem flush_leads (diagnostics : Diagnostics) :
    diagnostics.Leads [] diagnostics.flush.1 diagnostics.flush.2 := by
  constructor
  · rfl
  · intro rest final
    have flushed : diagnostics.flush.1 = messages (release diagnostics.held).1 :=
      (messages_eq _).symm
    rw [flushed, Utf8.Decoder.feed_nil, List.append_nil]
    exact messagesOf_append diagnostics.held rest final

theorem feed_leads (diagnostics : Diagnostics) (chunk : List UInt8) :
    diagnostics.Leads chunk [] (diagnostics.feed chunk) :=
  ⟨rfl, fun _ _ => rfl⟩

/-- Reading chunks one after the other leads on from what was kept by the octets of all of them. -/
theorem run_leads (diagnostics : Diagnostics) (chunks : List (List UInt8)) :
    diagnostics.Leads chunks.flatten (diagnostics.run chunks).1 (diagnostics.run chunks).2 := by
  induction chunks generalizing diagnostics with
  | nil => exact flush_leads diagnostics
  | cons chunk chunks inductionHypothesis =>
      have fed := (flush_leads diagnostics).trans (feed_leads diagnostics.flush.2 chunk)
      have led := fed.trans (inductionHypothesis (diagnostics.flush.2.feed chunk))
      rw [List.append_nil] at led
      exact led

/-- The text that is held after chunks were read holds no line that can be forwarded. -/
theorem release_run (diagnostics : Diagnostics) (chunks : List (List UInt8)) :
    ∃ text, (diagnostics.run chunks).2.held = (release text).2 := by
  induction chunks generalizing diagnostics with
  | nil => exact ⟨_, rfl⟩
  | cons chunk chunks inductionHypothesis => exact inductionHypothesis _

/-- At the end of the octets there is one more message, if what is held is not blank. -/
theorem finish_run (diagnostics : Diagnostics) (chunks : List (List UInt8)) :
    (diagnostics.run chunks).2.finish =
      messagesOf (diagnostics.run chunks).2.held (diagnostics.run chunks).2.decoder.finish := by
  obtain ⟨text, held⟩ := release_run diagnostics chunks
  rw [finish, held, messagesOf_held, messages_eq, List.filterMap_cons]
  cases message? ((release text).2 ++ (diagnostics.run chunks).2.decoder.finish) <;> rfl

/-- When all that was still to come has been read, the messages are those of the whole text. -/
theorem Leads.whole (leads : before.Leads octets sent after) :
    sent ++ messagesOf after.held after.decoder.finish =
      messagesOf (before.held ++ (before.decoder.feed octets).2)
        (before.decoder.feed octets).1.finish := by
  have all := leads.sent [] after.decoder.finish
  rw [List.append_nil, List.append_nil] at all
  rw [← all, leads.decoder]

/-- What is held back has nothing more to give until more is read. -/
theorem flush_flush (diagnostics : Diagnostics) :
    diagnostics.flush.2.flush = ([], diagnostics.flush.2) := by
  have rests : release (release diagnostics.held).2 = ([], (release diagnostics.held).2) := by
    cases released diagnostics.held with
    | none empty same => rw [same]; rfl
    | all cut finished same => rw [same]; rfl
    | most cut unfinished same =>
        rw [same, release, lines_last cut]
        simp [unfinished]
  rw [flush, flush, rests]
  rfl

theorem run_cons (diagnostics : Diagnostics) (chunk : List UInt8) (chunks : List (List UInt8)) :
    diagnostics.run (chunk :: chunks) =
      (diagnostics.flush.1 ++ ((diagnostics.flush.2.feed chunk).run chunks).1,
        ((diagnostics.flush.2.feed chunk).run chunks).2) :=
  rfl

/-- Chunks can be read in two goes. -/
theorem run_append (diagnostics : Diagnostics) (first second : List (List UInt8)) :
    diagnostics.run (first ++ second) =
      ((diagnostics.run first).1 ++ ((diagnostics.run first).2.run second).1,
        ((diagnostics.run first).2.run second).2) := by
  induction first generalizing diagnostics with
  | nil =>
      cases second with
      | nil => simp [run, flush_flush]
      | cons chunk chunks => simp [run, flush_flush]
  | cons chunk chunks inductionHypothesis =>
      rw [List.cons_append, run_cons, inductionHypothesis, run_cons, List.append_assoc]

/-- What is kept after the chunks that were read since the start, with the messages in between:
what there was at the start, or what is left when all of the chunks have been gone through. -/
inductive Forwards (start : Diagnostics) :
    List (List UInt8) → List (List Char) → Diagnostics → Prop
  | begun : Forwards start [] [] start
  | run (chunks : List (List UInt8)) :
      Forwards start chunks (start.run chunks).1 (start.run chunks).2

theorem Forwards.goOn {start : Diagnostics} {chunks : List (List UInt8)}
    (forwards : start.Forwards chunks sent diagnostics) (more : List (List UInt8)) :
    start.Forwards (chunks ++ more) (sent ++ (diagnostics.run more).1)
      (diagnostics.run more).2 := by
  cases forwards with
  | begun => exact .run more
  | run chunks =>
      have runs : start.Forwards _ _ _ := .run (chunks ++ more)
      rwa [run_append] at runs

theorem Forwards.leads {start : Diagnostics} {chunks : List (List UInt8)}
    (forwards : start.Forwards chunks sent diagnostics) :
    start.Leads chunks.flatten sent diagnostics := by
  cases forwards with
  | begun => exact .refl _
  | run chunks => exact run_leads start chunks

end Leading

end Diagnostics

end EmacsSession
