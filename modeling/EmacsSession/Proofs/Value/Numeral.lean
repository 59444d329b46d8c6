/-
This file shows that names and numerals are single runs.
-/

import EmacsSession.Value.Printer
import EmacsSession.Proofs.Value.Scanner

namespace EmacsSession

open Token

namespace Token

/-- The characters of numerals. -/
def isNumeralCharacter (character : Char) : Bool :=
  character.isDigit || ['-', '+', '.', 'e'].contains character

/-- No character that is allowed in names ends a run. -/
theorem isRunCharacter_of_allowed {character : Char}
    (allowed : isForbiddenInName character = false) : isRunCharacter character = true := by
  simp only [isForbiddenInName, Bool.or_eq_false_iff] at allowed
  simp_all [isRunCharacter]

theorem allowed_of_isDigit {character : Char} (digit : character.isDigit = true) :
    isForbiddenInName character = false := by
  have low : 48 ≤ character.toNat ∧ character.toNat ≤ 57 := by
    simpa [Char.isDigit, UInt32.le_iff_toNat_le] using digit
  have notBlank : Text.isBlank character = false := by
    simp [Text.isBlank]
    omega
  simp only [isForbiddenInName, notBlank, Bool.false_or, List.contains_eq_mem,
    decide_eq_false_iff_not]
  intro member
  have other : ['(', ')', '[', ']', '\x22', '\x27', ';', '\x60', ',', '#', '\x5c'].all
      (fun mark => !mark.isDigit) = true := by decide
  simpa [digit] using List.all_eq_true.mp other character member

theorem allowed_of_isNumeralCharacter {character : Char}
    (numeral : isNumeralCharacter character = true) : isForbiddenInName character = false := by
  simp only [isNumeralCharacter, Bool.or_eq_true, List.contains_eq_mem, decide_eq_true_eq,
    List.mem_cons, List.not_mem_nil, or_false] at numeral
  rcases numeral with digit | rfl | rfl | rfl | rfl
  · exact allowed_of_isDigit digit
  all_goals decide

theorem isRunCharacter_of_isNumeralCharacter {character : Char}
    (numeral : isNumeralCharacter character = true) : isRunCharacter character = true :=
  isRunCharacter_of_allowed (allowed_of_isNumeralCharacter numeral)

theorem isRun_of_isNumeralCharacter {word : List Char} (nonempty : word ≠ [])
    (numeral : ∀ character ∈ word, isNumeralCharacter character = true) : IsRun word :=
  ⟨nonempty, fun character member =>
    isRunCharacter_of_isNumeralCharacter (numeral character member)⟩

end Token

theorem isNumeralCharacter_of_mem_toDigits {number : Nat} {character : Char}
    (member : character ∈ Nat.toDigits 10 number) : isNumeralCharacter character = true := by
  simp [isNumeralCharacter, Nat.isDigit_of_mem_toDigits (by decide) (by decide) member]

namespace Double

theorem isNumeralCharacter_of_mem_significantDigits {decimal : Decimal} {character : Char}
    (member : character ∈ significantDigits decimal) : isNumeralCharacter character = true := by
  refine isNumeralCharacter_of_mem_toDigits
    (?_ : character ∈ Nat.toDigits 10 decimal.coefficient)
  unfold significantDigits at member
  split at member
  · simp at member
  · rename_i digit digits written
    rw [written]
    rcases List.mem_cons.mp member with rfl | inside
    · simp
    · have suffix := (List.dropWhile_sublist _).subset (List.mem_reverse.mp inside)
      exact List.mem_cons_of_mem _ (List.mem_reverse.mp suffix)

theorem isNumeralCharacter_of_mem_twoDigits {number : Nat} {character : Char}
    (member : character ∈ twoDigits number) : isNumeralCharacter character = true := by
  unfold twoDigits at member
  split at member
  · rcases List.mem_cons.mp member with rfl | inside
    · decide
    · exact isNumeralCharacter_of_mem_toDigits inside
  · exact isNumeralCharacter_of_mem_toDigits member

theorem plain_standard (digits : List Char) (exponent : Int) :
    Layout.standard.plain digits exponent =
      if exponent < 0 then '0' :: '.' :: List.replicate (-exponent - 1).toNat '0' ++ digits
      else if digits.length ≤ exponent.toNat + 1 then
        digits ++ List.replicate (exponent.toNat + 1 - digits.length) '0' ++ ['.', '0']
      else digits.take (exponent.toNat + 1) ++ '.' :: digits.drop (exponent.toNat + 1) := rfl

theorem isNumeralCharacter_of_mem_plain {digits : List Char} {exponent : Int} {character : Char}
    (numeral : ∀ character ∈ digits, isNumeralCharacter character = true)
    (member : character ∈ Layout.standard.plain digits exponent) :
    isNumeralCharacter character = true := by
  have zero : isNumeralCharacter '0' = true := by decide
  have point : isNumeralCharacter '.' = true := by decide
  rw [plain_standard] at member
  split_ifs at member with small short
  · simp only [List.cons_append, List.mem_append, List.mem_cons, List.mem_replicate] at member
    rcases member with rfl | rfl | ⟨-, rfl⟩ | inside
    exacts [zero, point, zero, numeral character inside]
  · simp only [List.mem_append, List.mem_replicate, List.mem_cons, List.not_mem_nil,
      or_false] at member
    rcases member with (inside | ⟨-, rfl⟩) | rfl | rfl
    exacts [numeral character inside, zero, point, zero]
  · simp only [List.mem_append, List.mem_cons] at member
    rcases member with inside | rfl | inside
    exacts [numeral character (List.mem_of_mem_take inside), point,
      numeral character (List.mem_of_mem_drop inside)]

theorem isNumeralCharacter_sign (exponent : Int) :
    isNumeralCharacter (if exponent < 0 then '-' else '+') = true := by
  split <;> decide

theorem isNumeralCharacter_of_mem_scientific {digits : List Char} {exponent : Int}
    {character : Char} (numeral : ∀ character ∈ digits, isNumeralCharacter character = true)
    (member : character ∈ scientific digits exponent) : isNumeralCharacter character = true := by
  simp only [scientific, List.mem_append, List.mem_cons] at member
  rcases member with (inside | inside) | rfl | rfl | inside
  · exact numeral character (List.mem_of_mem_take inside)
  · cases written : digits.drop 1 with
    | nil => simp [written] at inside
    | cons digit rest =>
        simp only [written, List.mem_cons (a := character)] at inside
        rcases inside with rfl | place
        · decide
        · exact numeral character (List.mem_of_mem_drop (written ▸ List.mem_cons.mpr place))
  · decide
  · exact isNumeralCharacter_sign exponent
  · exact isNumeralCharacter_of_mem_twoDigits inside

theorem isNumeralCharacter_of_mem_finite {number : Double} {character : Char}
    (member : character ∈ Layout.standard.finite number) : isNumeralCharacter character = true := by
  rcases List.mem_append.mp member with sign | inside
  · split at sign
    · rw [List.mem_singleton.mp sign]
      decide
    · simp at sign
  · unfold Layout.magnitude at inside
    split at inside
    · exact isNumeralCharacter_of_mem_plain (List.forall_mem_singleton.mpr rfl) inside
    · dsimp only at inside
      split at inside
      · exact isNumeralCharacter_of_mem_plain
          (fun _ => isNumeralCharacter_of_mem_significantDigits) inside
      · exact isNumeralCharacter_of_mem_scientific
          (fun _ => isNumeralCharacter_of_mem_significantDigits) inside

/-- There is a point in a numeral with places only. -/
theorem point_mem_plain (digits : List Char) (exponent : Int) :
    '.' ∈ Layout.standard.plain digits exponent := by
  rw [plain_standard]
  split_ifs <;> simp

/-- The point does not stand alone. -/
theorem plain_ne_point (digits : List Char) (exponent : Int) :
    Layout.standard.plain digits exponent ≠ ['.'] := by
  intro alone
  have length := congrArg List.length alone
  rw [plain_standard] at length
  split_ifs at length <;> simp at length <;> omega

/-- There is a point or the letter of the exponent in the numeral of a double, and a point does not
stand alone. -/
theorem mark_mem_magnitude (number : Double) :
    ('.' ∈ Layout.standard.magnitude number ∨ 'e' ∈ Layout.standard.magnitude number) ∧
      Layout.standard.magnitude number ≠ ['.'] := by
  have plain (digits : List Char) (exponent : Int) :
      ('.' ∈ Layout.standard.plain digits exponent ∨ 'e' ∈ Layout.standard.plain digits exponent) ∧
        Layout.standard.plain digits exponent ≠ ['.'] :=
    ⟨.inl (point_mem_plain digits exponent), plain_ne_point digits exponent⟩
  unfold Layout.magnitude
  split
  · exact plain _ _
  · dsimp only
    split
    · exact plain _ _
    · refine ⟨.inr (by simp [scientific]), fun alone => ?_⟩
      have letter : 'e' ∈ ['.'] := alone ▸ (by simp [scientific])
      simp at letter

theorem isRun_finite (number : Double) : IsRun (Layout.standard.finite number) := by
  refine isRun_of_isNumeralCharacter (fun empty => ?_) fun _ => isNumeralCharacter_of_mem_finite
  have magnitude : Layout.standard.magnitude number = [] := (List.append_eq_nil_iff.mp empty).2
  simpa [magnitude] using (mark_mem_magnitude number).1

end Double

theorem toList_printFloat_of_finite {number : Double} (isNumber : number.isNaN = false)
    (isFinite : number.isInfinite = false) :
    (Value.printFloat number).toList = Double.Layout.standard.finite number := by
  simp [Value.printFloat, Double.Layout.text, isNumber, isFinite]

/-- A printed double is one of the three words for what is not finite, or a numeral. -/
theorem printFloat_cases (number : Double) :
    Value.printFloat number ∈ ["0.0e+NaN", "-1.0e+INF", "1.0e+INF"] ∨
      (Value.printFloat number).toList = Double.Layout.standard.finite number := by
  cases isNaN : number.isNaN with
  | true => simp [Value.printFloat, isNaN]
  | false =>
      cases isInfinite : number.isInfinite with
      | true => cases isNegative : number.isNegative <;> simp [Value.printFloat, *]
      | false => exact .inr (toList_printFloat_of_finite isNaN isInfinite)

theorem isRun_printFloat (number : Double) : IsRun (Value.printFloat number).toList := by
  rcases printFloat_cases number with word | numeral
  · have runs : ∀ word ∈ ["0.0e+NaN", "-1.0e+INF", "1.0e+INF"],
        word.toList ≠ [] ∧ word.toList.all isRunCharacter = true := by decide
    exact .of_all (runs _ word).1 (runs _ word).2
  · exact numeral ▸ Double.isRun_finite number

/-- There is a point or the letter of an exponent in every printed double. -/
theorem mark_mem_printFloat (number : Double) :
    '.' ∈ (Value.printFloat number).toList ∨ 'e' ∈ (Value.printFloat number).toList := by
  rcases printFloat_cases number with word | numeral
  · have marks : ∀ word ∈ ["0.0e+NaN", "-1.0e+INF", "1.0e+INF"], '.' ∈ word.toList := by decide
    exact .inl (marks _ word)
  · rw [numeral]
    exact (Double.mark_mem_magnitude number).1.imp (List.mem_append_right _)
      (List.mem_append_right _)

theorem toList_toString_ofNat (number : Nat) :
    (toString (Int.ofNat number)).toList = Nat.toDigits 10 number := by
  rw [Int.toString_eq_repr, Int.repr_eq_if, if_pos (by simp)]
  simp [Nat.repr_eq_ofList_toDigits]

theorem toList_toString_negSucc (number : Nat) :
    (toString (Int.negSucc number)).toList = '-' :: Nat.toDigits 10 (number + 1) := by
  rw [Int.toString_eq_repr, Int.repr_eq_if, if_neg (by omega)]
  simp [Nat.repr_eq_ofList_toDigits]

/-- There are digits and a sign in an integer, and nothing else. -/
theorem isDigit_of_mem_toString {number : Int} {character : Char}
    (member : character ∈ (toString number).toList) :
    character = '-' ∨ character.isDigit = true := by
  cases number with
  | ofNat number =>
      rw [toList_toString_ofNat] at member
      exact .inr (Nat.isDigit_of_mem_toDigits (by decide) (by decide) member)
  | negSucc number =>
      rw [toList_toString_negSucc] at member
      exact (List.mem_cons.mp member).imp id
        (Nat.isDigit_of_mem_toDigits (by decide) (by decide))

theorem isNumeralCharacter_of_mem_toString {number : Int} {character : Char}
    (member : character ∈ (toString number).toList) : isNumeralCharacter character = true := by
  rcases isDigit_of_mem_toString member with rfl | digit
  · decide
  · simp [isNumeralCharacter, digit]

theorem isRun_toString (number : Int) : IsRun (toString number).toList := by
  refine isRun_of_isNumeralCharacter ?_ fun _ => isNumeralCharacter_of_mem_toString
  cases number with
  | ofNat number => exact toList_toString_ofNat number ▸ Nat.toDigits_ne_nil
  | negSucc number => exact toList_toString_negSucc number ▸ List.cons_ne_nil _ _

theorem printFloat_ne_toString (float : Double) (int : Int) :
    Value.printFloat float ≠ toString int := by
  intro same
  have marked := mark_mem_printFloat float
  rw [same] at marked
  rcases marked with member | member <;>
    exact absurd (isDigit_of_mem_toString member) (by decide)

/-- A name is sound where it is neither empty nor a lone point and all its characters are
allowed. -/
theorem symbolFlaw?_eq_none_iff {name : String} :
    symbolFlaw? name = none ↔
      name.toList ≠ [] ∧ name.toList ≠ ['.'] ∧
        ∀ character ∈ name.toList, isForbiddenInName character = false := by
  unfold symbolFlaw?
  split_ifs with empty point
  · simp_all
  · simp_all
  · simp_all [List.find?_eq_none]

/-- No character of a sound name ends a run. -/
theorem isRun_of_symbolFlaw? {name : String} (sound : symbolFlaw? name = none) :
    IsRun name.toList ∧ name.toList ≠ ['.'] := by
  obtain ⟨nonempty, notPoint, allowed⟩ := symbolFlaw?_eq_none_iff.mp sound
  exact ⟨⟨nonempty, fun character member =>
    isRunCharacter_of_allowed (allowed character member)⟩, notPoint⟩

theorem symbolFlaw?_of_keywordFlaw? {name : String} (sound : keywordFlaw? name = none) :
    symbolFlaw? name = none := by
  unfold keywordFlaw? at sound
  split at sound <;> simp_all

/-- The colon in front belongs to the run. -/
theorem isRun_of_keywordFlaw? {name : String} (sound : keywordFlaw? name = none) :
    IsRun (':' :: name.toList) := by
  obtain ⟨-, characters⟩ := (isRun_of_symbolFlaw? (symbolFlaw?_of_keywordFlaw? sound)).1
  refine ⟨by simp, fun character member => ?_⟩
  rcases List.mem_cons.mp member with rfl | inside
  · decide
  · exact characters character inside

end EmacsSession
