/-
This file cuts a text into the tokens of the Lisp reader.
-/

import Mathlib.Data.List.Basic
import EmacsSession.Name

namespace EmacsSession

/-- A run is a longest word of characters that are neither blank, a bracket nor a quote. -/
inductive Token where
  | opening
  | closing
  | quoteMark
  | literal (contents : List Char)
  | run (word : List Char)
  deriving DecidableEq, Repr

namespace Token

/-- The characters of runs. -/
def isRunCharacter (character : Char) : Bool :=
  !(Text.isBlank character || ['(', ')', '\x27', '\x22'].contains character)

/-- A word that is a run as a whole. -/
structure IsRun (word : List Char) : Prop where
  nonempty : word ≠ []
  characters : ∀ character ∈ word, isRunCharacter character = true

theorem IsRun.of_all {word : List Char} (nonempty : word ≠ [])
    (characters : word.all isRunCharacter = true) : IsRun word :=
  ⟨nonempty, List.all_eq_true.mp characters⟩

/-- A run does not go on into the text. -/
def IsBoundary (rest : List Char) : Prop :=
  ∀ character ∈ rest.head?, isRunCharacter character = false

/-- The contents of a literal leave it open: a backslash takes the next character, there is no bare
double quote, and the last backslash has its character. -/
def isEscaped : List Char → Bool
  | [] => true
  | '\x22' :: _ => false
  | '\x5c' :: rest =>
      match rest with
      | [] => false
      | _ :: rest => isEscaped rest
  | _ :: rest => isEscaped rest

/-- The place of the scanner in a text. The characters held are those of the token so far, the last
one first. -/
inductive Place where
  | gap
  | run (held : List Char)
  | literal (held : List Char)
  | escape (held : List Char)

/-- What a character outside of runs and literals completes, and what it begins. -/
def begins (character : Char) : List Token × Place :=
  if character = '(' then ([.opening], .gap)
  else if character = ')' then ([.closing], .gap)
  else if character = '\x27' then ([.quoteMark], .gap)
  else if character = '\x22' then ([], .literal [])
  else if Text.isBlank character then ([], .gap)
  else ([], .run [character])

/-- The tokens that a character completes, and the place after it. -/
def step (character : Char) : Place → List Token × Place
  | .gap => begins character
  | .run held =>
      if isRunCharacter character then ([], .run (character :: held))
      else (.run held.reverse :: (begins character).1, (begins character).2)
  | .literal held =>
      if character = '\x22' then ([.literal held.reverse], .gap)
      else if character = '\x5c' then ([], .escape (character :: held))
      else ([], .literal (character :: held))
  | .escape held => ([], .literal (character :: held))

/-- The tokens that the end of the text completes. There are none if it leaves a literal open. -/
def finish : Place → Option (List Token)
  | .gap => some []
  | .run held => some [.run held.reverse]
  | .literal _ => none
  | .escape _ => none

/-- The tokens of a text from a place on. -/
def scanFrom (place : Place) : List Char → Option (List Token)
  | [] => finish place
  | character :: rest =>
      (scanFrom (step character place).2 rest).map ((step character place).1 ++ ·)

/-- The tokens of a text. -/
def scan (text : List Char) : Option (List Token) :=
  scanFrom .gap text

theorem isBoundary_nil : IsBoundary [] := by
  simp [IsBoundary]

theorem isBoundary_cons {character : Char} (outside : isRunCharacter character = false)
    (rest : List Char) : IsBoundary (character :: rest) := by
  simp [IsBoundary, outside]

theorem begins_of_isRunCharacter {character : Char} (inside : isRunCharacter character = true) :
    begins character = ([], .run [character]) := by
  simp only [isRunCharacter, Bool.not_eq_true', Bool.or_eq_false_iff, List.contains_eq_mem,
    List.mem_cons, List.not_mem_nil, or_false, not_or, decide_eq_false_iff_not] at inside
  obtain ⟨notBlank, notOpening, notClosing, notQuote, notDouble⟩ := inside
  simp [begins, notBlank, notOpening, notClosing, notQuote, notDouble]

@[simp] theorem scan_nil : scan [] = some [] := rfl

@[simp] theorem scan_opening (rest : List Char) :
    scan ('(' :: rest) = (scan rest).map (.opening :: ·) := rfl

@[simp] theorem scan_closing (rest : List Char) :
    scan (')' :: rest) = (scan rest).map (.closing :: ·) := rfl

@[simp] theorem scan_quoteMark (rest : List Char) :
    scan ('\x27' :: rest) = (scan rest).map (.quoteMark :: ·) := rfl

@[simp] theorem scan_space (rest : List Char) : scan (' ' :: rest) = scan rest := by
  change (scan rest).map ([] ++ ·) = scan rest
  simp

/-- The scanner stays inside the literal up to its closing quote. -/
theorem scanFrom_literal (contents held rest : List Char) (escaped : isEscaped contents = true) :
    scanFrom (.literal held) (contents ++ '\x22' :: rest) =
      (scan rest).map (.literal (held.reverse ++ contents) :: ·) := by
  induction contents using isEscaped.induct generalizing held with
  | case1 => simp [scanFrom, step, scan]
  | case2 rest => simp [isEscaped] at escaped
  | case3 => simp [isEscaped] at escaped
  | case4 character contents inductionHypothesis =>
      have inside := inductionHypothesis (character :: '\x5c' :: held)
        (by simpa [isEscaped] using escaped)
      simp [scanFrom, step, inside, Function.comp_def]
  | case5 character contents notDouble notBackslash inductionHypothesis =>
      have noQuote : ¬character = '\x22' := notDouble
      have noBackslash : ¬character = '\x5c' := notBackslash
      have inside := inductionHypothesis (character :: held) (by simpa [isEscaped] using escaped)
      simp [scanFrom, step, noQuote, noBackslash, inside, Function.comp_def]

theorem scan_literal (contents rest : List Char) (escaped : isEscaped contents = true) :
    scan ('\x22' :: contents ++ '\x22' :: rest) =
      (scan rest).map (.literal contents :: ·) := by
  have inside := scanFrom_literal contents [] rest escaped
  simpa [scan, scanFrom, step, begins] using inside

/-- The scanner takes characters of runs up to the boundary. -/
theorem scanFrom_run (word held rest : List Char)
    (characters : ∀ character ∈ word, isRunCharacter character = true)
    (boundary : IsBoundary rest) :
    scanFrom (.run held) (word ++ rest) =
      (scan rest).map (.run (held.reverse ++ word) :: ·) := by
  induction word generalizing held with
  | nil =>
      cases rest with
      | nil => simp [scanFrom, finish, scan]
      | cons character rest =>
          have outside : isRunCharacter character = false := boundary character rfl
          simp [scanFrom, step, outside, scan, Function.comp_def]
  | cons character word inductionHypothesis =>
      have inside : isRunCharacter character = true := characters character (by simp)
      have others := inductionHypothesis (character :: held)
        fun other member => characters other (by simp [member])
      simp [scanFrom, step, inside, others, Function.comp_def]

theorem scan_run {word : List Char} (isRun : IsRun word) {rest : List Char}
    (boundary : IsBoundary rest) :
    scan (word ++ rest) = (scan rest).map (.run word :: ·) := by
  obtain ⟨nonempty, characters⟩ := isRun
  cases word with
  | nil => exact absurd rfl nonempty
  | cons character word =>
      have inside : isRunCharacter character = true := characters character (by simp)
      have others := scanFrom_run word [character] rest
        (fun other member => characters other (by simp [member])) boundary
      simpa [scan, scanFrom, step, begins_of_isRunCharacter inside] using others

/-- The run at the front of a text ends where it meets the boundary. -/
theorem eq_of_isRun_append {word other after otherAfter : List Char} (isRun : IsRun word)
    (otherRun : IsRun other) (boundary : IsBoundary after) (otherBoundary : IsBoundary otherAfter)
    (same : word ++ after = other ++ otherAfter) : word = other ∧ after = otherAfter := by
  have front {word after : List Char} (isRun : IsRun word) (boundary : IsBoundary after) :
      (word ++ after).takeWhile isRunCharacter = word := by
    have stops : after.takeWhile isRunCharacter = [] := by
      cases after with
      | nil => rfl
      | cons character rest => simp [boundary character rfl]
    rw [List.takeWhile_append_of_pos isRun.characters, stops, List.append_nil]
  have sameWord : word = other := by
    rw [← front isRun boundary, same, front otherRun otherBoundary]
  exact ⟨sameWord, List.append_cancel_left (sameWord ▸ same)⟩

end Token

end EmacsSession
