/-
This file shows which levels the texts of the environment denote, and how they are read.
-/

import Mathlib.Data.List.Forall2
import Mathlib.Data.List.TakeWhile
import Mathlib.Data.Nat.Digits.Defs
import EmacsSession.Log.Level

namespace EmacsSession

namespace Text

/-- The characters are decimal digits with these values, each in any script. -/
def AreDecimals : List Char → List Nat → Prop :=
  List.Forall₂ fun character digit => decimalValue? character = some digit

/-- All characters are digits, but some of them have no place value. -/
structure IsPositionless (word : List Char) : Prop where
  digits : ∀ character ∈ word, isDigit character
  positionless : ∃ character ∈ word, decimalValue? character = none

section Numerals

variable {word : List Char} {digits : List Nat}

theorem numeralValue_eq (value : Nat) (digits : List Nat) :
    numeralValue value digits = Nat.ofDigits 10 (digits.reverse ++ [value]) := by
  induction digits generalizing value with
  | nil => simp [numeralValue]
  | cons digit digits inductionHypothesis =>
      rw [numeralValue, inductionHypothesis, List.reverse_cons, List.append_assoc,
        Nat.ofDigits_append, Nat.ofDigits_append]
      simp [Nat.ofDigits_cons, Nat.add_comm]

theorem AreDecimals.map (decimals : AreDecimals word digits) :
    word.map decimalValue? = digits.map some := by
  induction decimals with
  | nil => rfl
  | cons value _ inductionHypothesis => rw [List.map_cons, List.map_cons, value, inductionHypothesis]

theorem AreDecimals.isDigit (decimals : AreDecimals word digits) :
    ∀ character ∈ word, Text.isDigit character := by
  intro character member
  have valued : decimalValue? character ∈ digits.map some :=
    decimals.map ▸ List.mem_map_of_mem member
  obtain ⟨digit, -, value⟩ := List.mem_map.mp valued
  simp [Text.isDigit, ← value]

theorem exists_areDecimals (decimal : ∀ character ∈ word, decimalValue? character ≠ none) :
    ∃ digits, AreDecimals word digits := by
  induction word with
  | nil => exact ⟨[], .nil⟩
  | cons character word inductionHypothesis =>
      obtain ⟨digit, value⟩ := Option.ne_none_iff_exists'.mp (decimal character (.head _))
      obtain ⟨digits, decimals⟩ :=
        inductionHypothesis fun other member => decimal other (.tail _ member)
      exact ⟨digit :: digits, .cons value decimals⟩

/-- A numeral of any scripts has the value of its digits, the last one of which counts once. -/
theorem readNumeral_of_areDecimals (decimals : AreDecimals word digits) (nonempty : word ≠ [])
    (short : word.length ≤ numeralLimit) :
    readNumeral word = .ok (Nat.ofDigits 10 digits.reverse) := by
  have leading : ((word.map decimalValue?).takeWhile Option.isSome).filterMap id = digits := by
    rw [decimals.map, List.takeWhile_eq_self_iff.mpr (by simp), List.filterMap_map]
    exact List.filterMap_some
  have value : numeralValue 0 digits = Nat.ofDigits 10 digits.reverse := by
    simp [numeralValue_eq, Nat.ofDigits_append]
  have count := List.Forall₂.length_eq decimals
  rw [readNumeral, leading, if_neg (by omega), if_neg (by simp [count, nonempty]), value]

/-- A word with a character that has no place value is no numeral. -/
theorem readNumeral_of_positionless
    (positionless : ∃ character ∈ word, decimalValue? character = none) :
    ∃ error, readNumeral word = .error error := by
  obtain ⟨character, member, none⟩ := positionless
  -- The numeral is read up to that character at most, so fewer digits are read than there are.
  have longer : (word.map decimalValue?).takeWhile Option.isSome ≠ word.map decimalValue? := by
    intro whole
    have valued := List.takeWhile_eq_self_iff.mp whole _ (List.mem_map_of_mem member)
    rw [none] at valued
    cases valued
  have leads := List.takeWhile_prefix Option.isSome (l := word.map decimalValue?)
  have fewer : (((word.map decimalValue?).takeWhile Option.isSome).filterMap id).length <
      word.length :=
    calc (((word.map decimalValue?).takeWhile Option.isSome).filterMap id).length
      _ ≤ ((word.map decimalValue?).takeWhile Option.isSome).length := List.length_filterMap_le _ _
      _ < (word.map decimalValue?).length :=
          Nat.lt_of_le_of_ne leads.length_le fun same => longer (leads.eq_of_length same)
      _ = word.length := List.length_map _
  rw [readNumeral]
  split
  · exact ⟨_, rfl⟩
  · rw [if_pos (by rw [decide_eq_true fewer]; rfl)]
    exact ⟨_, rfl⟩

end Numerals

end Text

namespace Log

open Text

/-- The word of a text: without the blanks around it, and in capitals. -/
def wordOf (text : String) : List Char :=
  capitals (trim text.toList)

/-- The word is the name of a level, or a numeral of any scripts. -/
inductive Denotes : List Char → Int → Prop where
  | name {name : String} {level : Int} (known : (name, level) ∈ namedLevels) :
      Denotes name.toList level
  | numeral {word : List Char} {digits : List Nat} (nonempty : word ≠ [])
      (decimals : AreDecimals word digits) : Denotes word (Nat.ofDigits 10 digits.reverse : Nat)

variable {text name : String} {word : List Char} {level : Int}

theorem levelOf?_eq_some_iff : levelOf? name = some level ↔ (name, level) ∈ namedLevels := by
  constructor
  · intro found
    obtain ⟨entry, finds, rfl⟩ := Option.map_eq_some_iff.mp found
    obtain rfl : entry.1 = name := by simpa using List.find?_some finds
    exact List.mem_of_find?_eq_some finds
  · intro known
    have every : ∀ entry ∈ namedLevels, levelOf? entry.1 = some entry.2 := by decide
    exact every _ known

/-- No name of a level consists of digits. -/
theorem not_digits_of_known (known : (name, level) ∈ namedLevels) :
    name.toList.all isDigit = false := by
  have every : ∀ entry ∈ namedLevels, entry.1.toList.all isDigit = false := by decide +kernel
  exact every _ known

theorem requestedLevel_some (text : String) :
    requestedLevel (some text) =
      if !(wordOf text).isEmpty && (wordOf text).all isDigit then
        (readNumeral (wordOf text)).map fun number => some (number : Int)
      else .ok (levelOf? (String.ofList (wordOf text))) :=
  rfl

theorem requestedLevel_none : requestedLevel none = .ok none := by
  have nameless : levelOf? "" = none := by decide
  exact congrArg Except.ok nameless

/-- Only a word of digits can be refused. -/
theorem requestedLevel_eq_error_iff {error : NumeralError} :
    requestedLevel (some text) = .error error ↔
      wordOf text ≠ [] ∧ (∀ character ∈ wordOf text, isDigit character) ∧
        readNumeral (wordOf text) = .error error := by
  rw [requestedLevel_some]
  generalize wordOf text = word
  by_cases digits : (!word.isEmpty && word.all isDigit) = true
  · rw [if_pos digits]
    obtain ⟨nonempty, digits⟩ : word ≠ [] ∧ ∀ character ∈ word, isDigit character := by
      simpa using digits
    rw [and_iff_right nonempty, and_iff_right digits]
    cases readNumeral word with
    | ok number => exact iff_of_false nofun nofun
    | error other =>
        constructor
        all_goals
          intro same
          cases same
          rfl
  · rw [if_neg digits]
    refine iff_of_false nofun fun refused => digits ?_
    simpa [refused.1] using refused.2.1

theorem requestedLevel_of_denotes (denotes : Denotes (wordOf text) level)
    (short : (wordOf text).length ≤ numeralLimit) :
    requestedLevel (some text) = .ok (some level) := by
  rw [requestedLevel_some]
  generalize wordOf text = word at denotes short
  cases denotes with
  | name known =>
      rw [not_digits_of_known known, Bool.and_false, if_neg nofun, String.ofList_toList,
        levelOf?_eq_some_iff.mpr known]
  | numeral nonempty decimals =>
      rw [if_pos (by simpa [nonempty] using decimals.isDigit),
        readNumeral_of_areDecimals decimals nonempty short]
      rfl

theorem requestedLevel_of_positionless (positionless : IsPositionless (wordOf text)) :
    ∃ error, requestedLevel (some text) = .error error := by
  obtain ⟨error, refused⟩ := readNumeral_of_positionless positionless.positionless
  obtain ⟨character, member, -⟩ := positionless.positionless
  exact ⟨error, requestedLevel_eq_error_iff.mpr
    ⟨List.ne_nil_of_mem member, positionless.digits, refused⟩⟩

/-- A word that denotes nothing asks for no level, unless it looks like a numeral. -/
theorem requestedLevel_of_unknown (unknown : ∀ level, ¬ Denotes (wordOf text) level)
    (readable : ¬ IsPositionless (wordOf text)) : requestedLevel (some text) = .ok none := by
  rw [requestedLevel_some]
  generalize wordOf text = word at unknown readable
  have notNumeral : ¬ (!word.isEmpty && word.all isDigit) = true := by
    intro looks
    obtain ⟨nonempty, digits⟩ : word ≠ [] ∧ ∀ character ∈ word, isDigit character := by
      simpa using looks
    obtain ⟨values, decimals⟩ := exists_areDecimals fun character member none =>
      readable ⟨digits, character, member, none⟩
    exact unknown _ (.numeral nonempty decimals)
  have notName : levelOf? (String.ofList word) = none := by
    refine Option.eq_none_iff_forall_not_mem.mpr fun level found => ?_
    have denotes := Denotes.name (levelOf?_eq_some_iff.mp found)
    rw [String.toList_ofList] at denotes
    exact unknown level denotes
  rw [if_neg notNumeral, notName]

end Log

end EmacsSession
