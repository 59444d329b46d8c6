/-
This file shows which equal values have one printed form.
-/

import EmacsSession.Proofs.Value.Equality
import EmacsSession.Proofs.Value.Reading

namespace EmacsSession

open Token

/-- A zero is printed with its sign. -/
theorem toList_printFloat_of_isZero {number : Double} (isZero : number.isZero = true) :
    (Value.printFloat number).toList =
      (if number.isNegative then ['-'] else []) ++ ['0', '.', '0'] := by
  have finite : number.isNaN = false ∧ number.isInfinite = false := by
    simp_all [Double.isZero, Double.isNaN, Double.isInfinite]
  rw [toList_printFloat_of_finite finite.1 finite.2, Double.Layout.finite, Double.Layout.magnitude,
    if_pos isZero]
  rfl

namespace Value

variable {value other first rest form : Value}

/-- Numbers in the same place are of one kind, and floats have one sign. -/
def IsSpeltAlike : Value → Value → Prop
  | .cell first rest, .cell otherFirst otherRest =>
      first.IsSpeltAlike otherFirst ∧ rest.IsSpeltAlike otherRest
  | .quote form, .quote other => form.IsSpeltAlike other
  | .float number, .float other => number.isNegative = other.isNegative
  | value, other => value.kind = other.kind

theorem printTruth_ne_toString (flag : Bool) (number : Int) :
    (if flag then "t" else "nil") ≠ toString number := by
  intro same
  have written := congrArg String.toList same.symm
  cases flag
  · exact toString_ne_of_mem 'n' (by decide) (by simp) number written
  · exact toString_ne_of_mem 't' (by decide) (by simp) number written

theorem printTruth_ne_printFloat (flag : Bool) (number : Double) :
    (if flag then "t" else "nil") ≠ printFloat number := by
  intro same
  have marked := mark_mem_printFloat number
  rw [← same] at marked
  cases flag <;> simp at marked

/-- Equal floats of one text have one sign. -/
theorem isNegative_eq_of_printFloat_eq {number other : Double}
    (same : (float number).same (.float other) = true)
    (sameText : printFloat number = printFloat other) : number.isNegative = other.isNegative := by
  obtain ⟨quantity, counts, otherCounts⟩ := (same_iff_quantity?
    (by simp [kind, Kind.numbers]) (by simp [kind, Kind.numbers])).mp same
  have text := congrArg String.toList sameText
  cases sign : number.isNegative <;> cases otherSign : other.isNegative
  · rfl
  · obtain ⟨otherZero, zero⟩ := Double.isZero_of_quantity?_eq otherSign sign otherCounts counts
    simp [toList_printFloat_of_isZero, zero, otherZero, sign, otherSign] at text
  · obtain ⟨zero, otherZero⟩ := Double.isZero_of_quantity?_eq sign otherSign counts otherCounts
    simp [toList_printFloat_of_isZero, zero, otherZero, sign, otherSign] at text
  · rfl

/-- Equal numbers of one text are spelt alike: there is no digit in the text of a truth value, and a
point or an exponent in that of a float only. -/
theorem isSpeltAlike_of_number (isNumber : value.kind ∈ Kind.numbers)
    (otherIsNumber : other.kind ∈ Kind.numbers) (same : value.same other = true)
    (sameText : value.printLeaf = other.printLeaf) : value.IsSpeltAlike other := by
  rcases number_cases isNumber with ⟨flag, rfl⟩ | ⟨number, rfl⟩ | ⟨number, rfl⟩ <;>
    rcases number_cases otherIsNumber with ⟨otherFlag, rfl⟩ | ⟨otherNumber, rfl⟩ |
      ⟨otherNumber, rfl⟩ <;>
    simp only [printLeaf, Except.ok.injEq] at sameText
  · rfl
  · exact absurd sameText (printTruth_ne_toString flag otherNumber)
  · exact absurd sameText (printTruth_ne_printFloat flag otherNumber)
  · exact absurd sameText.symm (printTruth_ne_toString otherFlag number)
  · rfl
  · exact absurd sameText.symm (printFloat_ne_toString otherNumber number)
  · exact absurd sameText.symm (printTruth_ne_printFloat otherFlag number)
  · exact absurd sameText (printFloat_ne_toString number otherNumber)
  · exact isNegative_eq_of_printFloat_eq same sameText

/-- Equal numbers that are spelt alike are one value. -/
theorem eq_of_number (isNumber : value.kind ∈ Kind.numbers)
    (otherIsNumber : other.kind ∈ Kind.numbers) (same : value.same other = true)
    (alike : value.IsSpeltAlike other) : value = other := by
  obtain ⟨quantity, counts, otherCounts⟩ := (same_iff_quantity? isNumber otherIsNumber).mp same
  have sameQuantity := counts.trans otherCounts.symm
  rcases number_cases isNumber with ⟨flag, rfl⟩ | ⟨number, rfl⟩ | ⟨number, rfl⟩ <;>
    rcases number_cases otherIsNumber with ⟨otherFlag, rfl⟩ | ⟨otherNumber, rfl⟩ |
      ⟨otherNumber, rfl⟩ <;>
    simp only [IsSpeltAlike, kind, reduceCtorEq] at alike
  · cases flag <;> cases otherFlag <;> simp [quantity?] at sameQuantity <;> rfl
  · simpa [quantity?] using sameQuantity
  · rw [Double.eq_of_quantity?_eq alike counts otherCounts]

/-- A printed leaf that equals another one is that one, or both are numbers. -/
theorem eq_or_number {text otherText : String} (same : value.same other = true)
    (printed : value.printLeaf = .ok text) (otherPrinted : other.printLeaf = .ok otherText) :
    value = other ∨ value.kind ∈ Kind.numbers ∧ other.kind ∈ Kind.numbers := by
  have ofNumber (isNumber : value.kind ∈ Kind.numbers) : other.kind ∈ Kind.numbers := by
    cases other <;> simp only [printLeaf, reduceCtorEq] at otherPrinted
    case truth | int | float => simp [kind, Kind.numbers]
    all_goals
      rcases number_cases isNumber with ⟨_, rfl⟩ | ⟨_, rfl⟩ | ⟨_, rfl⟩ <;>
        simp [Value.same, sameNumber, number?] at same
  cases value <;> simp only [printLeaf, reduceCtorEq] at printed
  case absent => exact .inl (same_absent_iff.mp same).symm
  case nil => exact .inl (same_nil_iff.mp same).symm
  case text contents => exact .inl (same_text_iff.mp same).symm
  case symbol name => exact .inl (same_symbol_iff.mp same).symm
  case keyword name => exact .inl (same_keyword_iff.mp same).symm
  all_goals
    have isNumber := ofNumber (by simp [kind, Kind.numbers])
    exact .inr ⟨by simp [kind, Kind.numbers], isNumber⟩

theorem isRun_of_number {text : String} (isNumber : value.kind ∈ Kind.numbers)
    (printed : value.printLeaf = .ok text) : IsRun text.toList := by
  rcases number_cases isNumber with ⟨flag, rfl⟩ | ⟨number, rfl⟩ | ⟨number, rfl⟩ <;>
    rw [← Except.ok.inj printed]
  · cases flag <;> exact .of_all (by decide) (by decide)
  · exact isRun_toString number
  · exact isRun_printFloat number

theorem isSpeltAlike_refl (value : Value) : value.IsSpeltAlike value := by
  induction value using formInduction with
  | leaf value leaf => cases value <;> first | rfl | cases leaf
  | quote form inside => exact inside
  | cell first rest atFirst atRest => exact ⟨atFirst, atRest⟩

/-- A text that begins with a leaf tells the spelling of the leaf. -/
theorem tells_leaf {text otherText : String} {after otherAfter : List Char}
    (same : value.same other = true) (printed : value.printLeaf = .ok text)
    (otherPrinted : other.printLeaf = .ok otherText) (boundary : IsBoundary after)
    (otherBoundary : IsBoundary otherAfter)
    (sameText : text.toList ++ after = otherText.toList ++ otherAfter) :
    value.IsSpeltAlike other ∧ after = otherAfter := by
  rcases eq_or_number same printed otherPrinted with rfl | ⟨isNumber, otherIsNumber⟩
  · rw [Except.ok.inj (printed.symm.trans otherPrinted)] at sameText
    exact ⟨isSpeltAlike_refl value, List.append_cancel_left sameText⟩
  · obtain ⟨sameRun, sameAfter⟩ := eq_of_isRun_append (isRun_of_number isNumber printed)
      (isRun_of_number otherIsNumber otherPrinted) boundary otherBoundary sameText
    have sameLeaf : value.printLeaf = other.printLeaf := by
      rw [printed, otherPrinted, String.toList_inj.mp sameRun]
    exact ⟨isSpeltAlike_of_number isNumber otherIsNumber same sameLeaf, sameAfter⟩

/-- Among equal values the text of a value up to a boundary tells how it is spelt, whether it stands
alone or behind the first element of a list. -/
structure TellsSpelling (value : Value) : Prop where
  form {other : Value} {text otherText : String} {after otherAfter : List Char}
    (same : value.same other = true) (printed : value.print = .ok text)
    (otherPrinted : other.print = .ok otherText) (boundary : IsBoundary after)
    (otherBoundary : IsBoundary otherAfter)
    (sameText : text.toList ++ after = otherText.toList ++ otherAfter) :
    value.IsSpeltAlike other ∧ after = otherAfter
  tail {other : Value} {words otherWords : List String} {after otherAfter : List Char}
    (same : value.same other = true) (printed : value.printRest = .ok words)
    (otherPrinted : other.printRest = .ok otherWords) (boundary : IsBoundary after)
    (otherBoundary : IsBoundary otherAfter)
    (sameText : spaced words ++ after = spaced otherWords ++ otherAfter) :
    value.IsSpeltAlike other ∧ after = otherAfter

theorem isLeaf_of_same (leaf : value.isLeaf = true) (same : value.same other = true) :
    other.isLeaf = true := by
  cases other <;> first
    | rfl
    | cases value <;> simp_all [isLeaf, Value.same, sameNumber, number?]

/-- The words of a leaf behind a list are none, or a point and its text. -/
theorem spaced_of_leaf {words : List String} (leaf : value.isLeaf = true)
    (printed : value.printRest = .ok words) :
    ∃ text, value.printLeaf = .ok text ∧
      spaced words = if value.isNil then [] else ' ' :: '.' :: ' ' :: text.toList := by
  have shape := spaced_of_printRest_leaf leaf printed
  cases isNil : value.isNil with
  | true =>
      simp only [isNil, if_true] at shape
      exact ⟨"nil", by cases value <;> simp_all [Value.isNil, printLeaf], by simp [shape, spaced]⟩
  | false => simpa [isNil] using shape

theorem tellsSpelling_of_isLeaf (leaf : value.isLeaf = true) : value.TellsSpelling where
  form same printed otherPrinted boundary otherBoundary sameText := by
    rw [print_of_isLeaf leaf] at printed
    rw [print_of_isLeaf (isLeaf_of_same leaf same)] at otherPrinted
    exact tells_leaf same printed otherPrinted boundary otherBoundary sameText
  tail same printed otherPrinted boundary otherBoundary sameText := by
    obtain ⟨text, printedLeaf, shape⟩ := spaced_of_leaf leaf printed
    obtain ⟨otherText, otherPrintedLeaf, otherShape⟩ :=
      spaced_of_leaf (isLeaf_of_same leaf same) otherPrinted
    rw [shape, otherShape] at sameText
    rcases eq_or_number same printedLeaf otherPrintedLeaf with rfl | ⟨isNumber, otherIsNumber⟩
    · rw [Except.ok.inj (printedLeaf.symm.trans otherPrintedLeaf)] at sameText
      exact ⟨isSpeltAlike_refl _, List.append_cancel_left sameText⟩
    · have notNil {number : Value} (isNumber : number.kind ∈ Kind.numbers) :
          number.isNil = false := by
        rcases number_cases isNumber with ⟨_, rfl⟩ | ⟨_, rfl⟩ | ⟨_, rfl⟩ <;> rfl
      simp only [notNil isNumber, notNil otherIsNumber, Bool.false_eq_true, if_false,
        List.cons_append, List.cons.injEq, true_and] at sameText
      exact tells_leaf same printedLeaf otherPrintedLeaf boundary otherBoundary sameText

theorem tellsSpelling_quote (inside : form.TellsSpelling) : (quote form).TellsSpelling where
  form same printed otherPrinted boundary otherBoundary sameText := by
    obtain ⟨inner, rfl, sameInside⟩ := same_quote_iff.mp same
    obtain ⟨text, printedForm, shape⟩ := toList_of_print_quote printed
    obtain ⟨otherText, otherPrintedForm, otherShape⟩ := toList_of_print_quote otherPrinted
    rw [shape, otherShape] at sameText
    exact inside.form sameInside printedForm otherPrintedForm boundary otherBoundary
      (List.cons.inj sameText).2
  tail same printed otherPrinted boundary otherBoundary sameText := by
    obtain ⟨inner, rfl, sameInside⟩ := same_quote_iff.mp same
    obtain ⟨text, printedForm, shape⟩ := spaced_of_printRest_quote printed
    obtain ⟨otherText, otherPrintedForm, otherShape⟩ := spaced_of_printRest_quote otherPrinted
    simp only [shape, otherShape, List.cons_append, List.cons.injEq, true_and] at sameText
    exact inside.form sameInside printedForm otherPrintedForm boundary otherBoundary sameText

/-- A list is told element by element, up to its closing bracket. -/
theorem tellsSpelling_cell (atFirst : first.TellsSpelling) (atRest : rest.TellsSpelling) :
    (cell first rest).TellsSpelling where
  form same printed otherPrinted _ _ sameText := by
    obtain ⟨otherFirst, otherRest, rfl, sameFirst, sameRest⟩ := same_cell_iff.mp same
    obtain ⟨head, tail, printedFirst, printedRest, shape⟩ := toList_of_print_cell printed
    obtain ⟨otherHead, otherTail, otherPrintedFirst, otherPrintedRest, otherShape⟩ :=
      toList_of_print_cell otherPrinted
    simp only [shape, otherShape, List.cons_append, List.append_assoc, List.cons.injEq, true_and,
      List.nil_append] at sameText
    have closing (after : List Char) : IsBoundary (')' :: after) :=
      isBoundary_cons (by decide) after
    obtain ⟨alikeFirst, sameTail⟩ := atFirst.form sameFirst printedFirst otherPrintedFirst
      (isBoundary_spaced tail (closing _)) (isBoundary_spaced otherTail (closing _)) sameText
    obtain ⟨alikeRest, sameAfter⟩ := atRest.tail sameRest printedRest otherPrintedRest
      (closing _) (closing _) sameTail
    exact ⟨⟨alikeFirst, alikeRest⟩, (List.cons.inj sameAfter).2⟩
  tail same printed otherPrinted boundary otherBoundary sameText := by
    obtain ⟨otherFirst, otherRest, rfl, sameFirst, sameRest⟩ := same_cell_iff.mp same
    obtain ⟨head, tail, printedFirst, printedRest, shape⟩ := spaced_of_printRest_cell printed
    obtain ⟨otherHead, otherTail, otherPrintedFirst, otherPrintedRest, otherShape⟩ :=
      spaced_of_printRest_cell otherPrinted
    simp only [shape, otherShape, List.cons_append, List.append_assoc, List.cons.injEq,
      true_and] at sameText
    obtain ⟨alikeFirst, sameTail⟩ := atFirst.form sameFirst printedFirst otherPrintedFirst
      (isBoundary_spaced tail boundary) (isBoundary_spaced otherTail otherBoundary) sameText
    obtain ⟨alikeRest, sameAfter⟩ := atRest.tail sameRest printedRest otherPrintedRest
      boundary otherBoundary sameTail
    exact ⟨⟨alikeFirst, alikeRest⟩, sameAfter⟩

theorem tellsSpelling (value : Value) : value.TellsSpelling := by
  induction value using formInduction with
  | leaf value leaf => exact tellsSpelling_of_isLeaf leaf
  | quote form inside => exact tellsSpelling_quote inside
  | cell first rest atFirst atRest => exact tellsSpelling_cell atFirst atRest

theorem kind_eq_of_isSpeltAlike (alike : value.IsSpeltAlike other) : value.kind = other.kind := by
  unfold IsSpeltAlike at alike
  split at alike <;> first | rfl | exact alike

theorem printLeaf_eq_of_isSpeltAlike (leaf : value.isLeaf = true)
    (same : value.same other = true) (alike : value.IsSpeltAlike other) :
    value.printLeaf = other.printLeaf ∧ value.isNil = other.isNil := by
  have sameKind := kind_eq_of_isSpeltAlike alike
  by_cases isNumber : value.kind ∈ Kind.numbers
  · rw [eq_of_number isNumber (sameKind ▸ isNumber) same alike]
    exact ⟨rfl, rfl⟩
  · cases value
    case text contents => rw [same_text_iff.mp same]; exact ⟨rfl, rfl⟩
    case symbol name => rw [same_symbol_iff.mp same]; exact ⟨rfl, rfl⟩
    case keyword name => rw [same_keyword_iff.mp same]; exact ⟨rfl, rfl⟩
    case truth | int | float => simp [kind, Kind.numbers] at isNumber
    case quote | cell => cases leaf
    all_goals cases other <;> simp_all [kind, printLeaf, isNil]

/-- Equal values that are spelt alike have one text, alone and behind the first element of a
list. -/
theorem print_eq_of_isSpeltAlike (same : value.same other = true)
    (alike : value.IsSpeltAlike other) :
    value.print = other.print ∧ value.printRest = other.printRest := by
  induction value using formInduction generalizing other with
  | leaf value leaf =>
      have otherLeaf := isLeaf_of_same leaf same
      obtain ⟨sameText, sameNil⟩ := printLeaf_eq_of_isSpeltAlike leaf same alike
      rw [print_of_isLeaf leaf, print_of_isLeaf otherLeaf, printRest_of_isLeaf leaf,
        printRest_of_isLeaf otherLeaf, sameText, sameNil]
      exact ⟨rfl, rfl⟩
  | quote form inside =>
      obtain ⟨inner, rfl, sameInside⟩ := same_quote_iff.mp same
      have atForm := (inside sameInside alike).1
      simp only [print, printRest, atForm, and_self]
  | cell first rest atFirst atRest =>
      obtain ⟨otherFirst, otherRest, rfl, sameFirst, sameRest⟩ := same_cell_iff.mp same
      have first := (atFirst sameFirst alike.1).1
      have rest := (atRest sameRest alike.2).2
      simp only [print, printRest, first, rest, and_self]

/-- Equal values have one printed form just where they are spelt alike. -/
theorem print_eq_iff_isSpeltAlike {text otherText : String} (same : value.same other = true)
    (printed : value.print = .ok text) (otherPrinted : other.print = .ok otherText) :
    text = otherText ↔ value.IsSpeltAlike other := by
  constructor
  · rintro rfl
    exact ((tellsSpelling value).form same printed otherPrinted isBoundary_nil isBoundary_nil
      rfl).1
  · intro alike
    rw [(print_eq_of_isSpeltAlike same alike).1, otherPrinted] at printed
    exact (Except.ok.inj printed).symm

/-- A quoted list of one number. -/
def sampleQuote (number : Value) : Value :=
  .quote (.cell number .nil)

/-- A list of one as an integer equals a list of one as a float, and has another text. -/
theorem print_eq_iff_isSpeltAlike_sampleQuote :
    (sampleQuote (.int 1)).same (sampleQuote (.float ⟨0x3ff0000000000000⟩)) = true ∧
      (sampleQuote (.int 1)).print = .ok "'(1)" ∧
        (sampleQuote (.float ⟨0x3ff0000000000000⟩)).print = .ok "'(1.0)" ∧
          ¬(sampleQuote (.int 1)).IsSpeltAlike (sampleQuote (.float ⟨0x3ff0000000000000⟩)) := by
  have same : (sampleQuote (.int 1)).same (sampleQuote (.float ⟨0x3ff0000000000000⟩)) = true := by
    decide +kernel
  have printed : (sampleQuote (.int 1)).print = .ok "'(1)" := by decide +kernel
  have otherPrinted : (sampleQuote (.float ⟨0x3ff0000000000000⟩)).print = .ok "'(1.0)" := by
    decide +kernel
  refine ⟨same, printed, otherPrinted, fun alike => ?_⟩
  have sameText := (print_eq_iff_isSpeltAlike same printed otherPrinted).mpr alike
  exact absurd sameText (by decide)

/-- One is true, but it is not printed as true is. -/
theorem not_forall_print_eq_of_same :
    ¬∀ (value other : Value) (text otherText : String), value.same other = true →
      value.print = .ok text → other.print = .ok otherText → text = otherText := by
  intro always
  have same := always (.cell (.int 1) .nil) (.cell (.truth true) .nil) "(1)" "(t)"
    (by decide +kernel) (by decide +kernel) (by decide +kernel)
  exact absurd same (by decide)

/-- The two zeros are equal, and only one of them is printed with a sign. -/
example : (float ⟨0⟩).same (.float ⟨0x8000000000000000⟩) = true ∧
    (float ⟨0⟩).print = .ok "0.0" ∧ (float ⟨0x8000000000000000⟩).print = .ok "-0.0" := by
  decide +kernel

end Value

end EmacsSession
