/-
This file shows which accepted names are printed as something other than a symbol is.
-/

import EmacsSession.Form.Basic
import EmacsSession.Proofs.Value.Reading

namespace EmacsSession

open Token

/-- The kinds of values that are printed as one word. -/
def Kind.words : List Kind :=
  [.absent, .nil, .truth, .int, .float, .symbol, .keyword]

namespace Value

/-- A word that something other than a symbol is printed as: nil, true, a number or a keyword. -/
inductive IsTaken : String → Prop where
  | nil : IsTaken "nil"
  | true : IsTaken "t"
  | int (number : Int) : IsTaken (toString number)
  | float (number : Double) : IsTaken (printFloat number)
  | keyword (keyword : Keyword) : IsTaken (":" ++ keyword.name)

/-- The name is accepted, and its symbol has the printed form of the value. -/
def Clashes (name : String) (value : Value) : Prop :=
  ∃ form text, Form.symbol (.text name) = .ok form ∧ form.print = .ok text ∧
    value.print = .ok text

/-- The words for what is not finite are sound names, and so is every numeral. -/
theorem symbolFlaw?_printFloat (number : Double) : symbolFlaw? (printFloat number) = none := by
  rcases printFloat_cases number with word | numeral
  · have sound : ∀ word ∈ ["0.0e+NaN", "-1.0e+INF", "1.0e+INF"], symbolFlaw? word = none := by
      decide
    exact sound _ word
  · refine symbolFlaw?_eq_none_iff.mpr ⟨(isRun_printFloat number).1, ?_, fun character member =>
      allowed_of_isNumeralCharacter (Double.isNumeralCharacter_of_mem_finite (numeral ▸ member))⟩
    rw [numeral, Double.Layout.finite]
    split
    · simp
    · simpa using (Double.mark_mem_magnitude number).2

theorem symbolFlaw?_toString (number : Int) : symbolFlaw? (toString number) = none :=
  symbolFlaw?_eq_none_iff.mpr ⟨(isRun_toString number).1, toString_ne_point number,
    fun _ member => allowed_of_isNumeralCharacter (isNumeralCharacter_of_mem_toString member)⟩

/-- A name may begin with a colon, unlike that of a keyword. -/
theorem symbolFlaw?_keyword (keyword : Keyword) : symbolFlaw? (":" ++ keyword.name) = none := by
  obtain ⟨-, -, allowed⟩ :=
    symbolFlaw?_eq_none_iff.mp (symbolFlaw?_of_keywordFlaw? keyword.sound)
  refine symbolFlaw?_eq_none_iff.mpr ⟨by simp, by simp, fun character member => ?_⟩
  rw [String.toList_append] at member
  rcases List.mem_cons.mp member with rfl | inside
  · decide
  · exact allowed character inside

/-- Every taken word is accepted as a name. -/
theorem symbolFlaw?_of_isTaken {word : String} (taken : IsTaken word) :
    symbolFlaw? word = none := by
  cases taken with
  | nil => decide
  | true => decide
  | int number => exact symbolFlaw?_toString number
  | float number => exact symbolFlaw?_printFloat number
  | keyword keyword => exact symbolFlaw?_keyword keyword

theorem form_symbol_of_sound {name : String} (sound : symbolFlaw? name = none) :
    Form.symbol (.text name) = .ok (.symbol ⟨name, sound⟩) := by
  simp [Form.symbol, ofName_symbol ⟨name, sound⟩, Except.mapError, Except.map]

theorem clashes_iff {name : String} {value : Value} :
    Clashes name value ↔ symbolFlaw? name = none ∧ value.print = .ok name := by
  constructor
  · rintro ⟨form, text, accepted, printedForm, printed⟩
    cases flaw : symbolFlaw? name with
    | none =>
        rw [form_symbol_of_sound flaw] at accepted
        obtain rfl := Except.ok.inj accepted
        rw [show (symbol ⟨name, flaw⟩).print = .ok name from rfl] at printedForm
        exact ⟨rfl, Except.ok.inj printedForm ▸ printed⟩
    | some found =>
        have refused : Symbol.ofName name = .error found := by
          unfold Symbol.ofName
          split <;> simp_all
        simp [Form.symbol, refused, Except.mapError, Except.map] at accepted
  · rintro ⟨sound, printed⟩
    exact ⟨_, name, form_symbol_of_sound sound, rfl, printed⟩

/-- There is a forbidden mark in the printed form of a text, a quoted form and a list, so what is
printed as a sound name is printed as one word. -/
theorem kind_mem_words_of_print {name : String} {value : Value}
    (sound : symbolFlaw? name = none) (printed : value.print = .ok name) :
    value.kind ∈ Kind.words := by
  obtain ⟨-, -, allowed⟩ := symbolFlaw?_eq_none_iff.mp sound
  have noMark (mark : Char) (forbidden : isForbiddenInName mark = true) : mark ∉ name.toList :=
    fun member => by simp [allowed mark member] at forbidden
  cases value
  case text contents =>
      rw [print_of_isLeaf rfl, printLeaf, Except.ok.injEq] at printed
      exact absurd (by simp [← printed]) (noMark '\x22' (by decide))
  case quote form =>
      obtain ⟨inner, -, shape⟩ := toList_of_print_quote printed
      exact absurd (by simp [shape]) (noMark '\x27' (by decide))
  case cell first rest =>
      obtain ⟨head, tail, -, -, shape⟩ := toList_of_print_cell printed
      exact absurd (by simp [shape]) (noMark '(' (by decide))
  all_goals simp_all [kind, Kind.words, print, printLeaf]

/-- A taken word is the printed form of a value that is printed as one word and is no symbol. -/
theorem isTaken_of_print {name : String} {value : Value} (isWord : value.kind ∈ Kind.words)
    (notSymbol : value.kind ≠ .symbol) (printed : value.print = .ok name) : IsTaken name := by
  cases value <;> simp only [kind, Kind.words, List.mem_cons, List.not_mem_nil, reduceCtorEq,
    or_self, ne_eq, not_true_eq_false] at isWord notSymbol
  all_goals
    rw [print_of_isLeaf rfl, printLeaf, Except.ok.injEq] at printed
    subst printed
  case absent | nil => exact .nil
  case truth flag => cases flag <;> constructor
  case int number => exact .int number
  case float number => exact .float number
  case keyword keyword => exact .keyword keyword

theorem exists_print_of_isTaken {name : String} (taken : IsTaken name) :
    ∃ value : Value, value.kind ≠ .symbol ∧ value.print = .ok name := by
  cases taken with
  | nil => exact ⟨.nil, by simp [kind], rfl⟩
  | true => exact ⟨.truth true, by simp [kind], rfl⟩
  | int number => exact ⟨.int number, by simp [kind], rfl⟩
  | float number => exact ⟨.float number, by simp [kind], rfl⟩
  | keyword keyword => exact ⟨.keyword keyword, by simp [kind], rfl⟩

/-- The printed form of a value that is printed as one word is a sound name. -/
theorem exists_print_of_kind {value : Value} (isWord : value.kind ∈ Kind.words) :
    ∃ name, symbolFlaw? name = none ∧ value.print = .ok name := by
  have printed : ∃ name, value.print = .ok name := by
    cases value <;> simp_all [kind, Kind.words, print, printLeaf]
  obtain ⟨name, printed⟩ := printed
  refine ⟨name, ?_, printed⟩
  by_cases isSymbol : value.kind = .symbol
  · cases value <;> simp only [kind, reduceCtorEq] at isSymbol
    case symbol symbol =>
      rw [← Except.ok.inj printed]
      exact symbol.sound
  · exact symbolFlaw?_of_isTaken (isTaken_of_print isWord isSymbol printed)

/-- An accepted name is printed as something other than a symbol is just where it is a taken word,
and a value has the printed form of an accepted name just where it is printed as one word. No text,
quoted form or list is among them. -/
theorem clashes_iff_isTaken (name : String) (value : Value) :
    ((∃ other : Value, other.kind ≠ .symbol ∧ Clashes name other) ↔ IsTaken name) ∧
      ((∃ other : String, Clashes other value) ↔ value.kind ∈ Kind.words) := by
  simp only [clashes_iff]
  refine ⟨⟨?_, fun taken => ?_⟩, ?_, exists_print_of_kind⟩
  · rintro ⟨other, notSymbol, sound, printed⟩
    exact isTaken_of_print (kind_mem_words_of_print sound printed) notSymbol printed
  · obtain ⟨other, notSymbol, printed⟩ := exists_print_of_isTaken taken
    exact ⟨other, notSymbol, symbolFlaw?_of_isTaken taken, printed⟩
  · rintro ⟨other, sound, printed⟩
    exact kind_mem_words_of_print sound printed

/-- The digit five is accepted as a name, and five is printed alike. -/
theorem not_forall_print_ne :
    ¬∀ (name : String) (form value : Value), Form.symbol (.text name) = .ok form →
      value.kind ≠ .symbol → ∀ text, value.print = .ok text → form.print ≠ .ok text := by
  intro never
  have sound : symbolFlaw? "5" = none := by decide
  exact never "5" _ (.int 5) (form_symbol_of_sound sound) (by simp [kind]) "5" rfl rfl

end Value

end EmacsSession
