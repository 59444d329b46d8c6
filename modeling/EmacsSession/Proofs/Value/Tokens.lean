/-
This file shows that a printed form is cut into the tokens of its parts.
-/

import EmacsSession.Proofs.Value.Numeral

namespace EmacsSession.Value

open Token

/-- A value without forms inside it. -/
def isLeaf : Value → Bool
  | .quote _ => false
  | .cell _ _ => false
  | _ => true

/-- What holds of all leaves and is passed on by quotes and cells holds of every value. -/
theorem formInduction {motive : Value → Prop}
    (leaf : ∀ value, value.isLeaf = true → motive value)
    (quote : ∀ form, motive form → motive (.quote form))
    (cell : ∀ first rest, motive first → motive rest → motive (.cell first rest)) :
    ∀ value, motive value
  | .quote form => quote form (formInduction leaf quote cell form)
  | .cell first rest =>
      cell first rest (formInduction leaf quote cell first) (formInduction leaf quote cell rest)
  | .absent => leaf _ rfl
  | .nil => leaf _ rfl
  | .truth _ => leaf _ rfl
  | .int _ => leaf _ rfl
  | .float _ => leaf _ rfl
  | .text _ => leaf _ rfl
  | .symbol _ => leaf _ rfl
  | .keyword _ => leaf _ rfl
  | .list _ => leaf _ rfl
  | .tuple _ => leaf _ rfl
  | .table _ => leaf _ rfl
  | .octets _ => leaf _ rfl
  | .complex _ _ => leaf _ rfl
  | .object _ => leaf _ rfl
  | .foreign _ _ => leaf _ rfl

/-- A property holds of every leaf of a form. -/
def OnLeaves (holds : Value → Prop) : Value → Prop
  | .cell first rest => first.OnLeaves holds ∧ rest.OnLeaves holds
  | .quote form => form.OnLeaves holds
  | value => holds value

/-- The token of a leaf. -/
def leafToken : Value → Token
  | .text value => .literal value.toList
  | .truth value => .run (if value then ['t'] else ['n', 'i', 'l'])
  | .int value => .run (toString value).toList
  | .float value => .run (printFloat value).toList
  | .symbol value => .run value.name.toList
  | .keyword value => .run (':' :: value.name.toList)
  | _ => .run ['n', 'i', 'l']

mutual

/-- The tokens of a form. -/
def tokens : Value → List Token
  | .cell first rest => .opening :: (tokens first ++ (tailTokens rest ++ [.closing]))
  | .quote form => .quoteMark :: tokens form
  | value => [leafToken value]

/-- The tokens that follow the first element of a list. -/
def tailTokens : Value → List Token
  | .cell first rest => tokens first ++ tailTokens rest
  | .quote form => .run ['.'] :: .quoteMark :: tokens form
  | value => if value.isNil then [] else [.run ['.'], leafToken value]

end

/-- The contents of a text can stand between double quotes. -/
def HasEscapedText : Value → Prop
  | .text value => isEscaped value.toList = true
  | _ => True

variable {value first rest form : Value} {holds : Value → Prop}

theorem onLeaves_of_isLeaf (leaf : value.isLeaf = true) : value.OnLeaves holds ↔ holds value := by
  cases value <;> simp_all [isLeaf, OnLeaves]

theorem print_of_isLeaf (leaf : value.isLeaf = true) : value.print = value.printLeaf := by
  cases value <;> simp_all [isLeaf, print]

theorem printRest_of_isLeaf (leaf : value.isLeaf = true) :
    value.printRest =
      if value.isNil then .ok [] else value.printLeaf.map fun text => [".", text] := by
  cases value <;> simp_all [isLeaf, printRest, isNil, Except.map, bind, Except.bind]

theorem tokens_of_isLeaf (leaf : value.isLeaf = true) : value.tokens = [value.leafToken] := by
  cases value <;> simp_all [isLeaf, tokens]

theorem tailTokens_of_isLeaf (leaf : value.isLeaf = true) :
    value.tailTokens = if value.isNil then [] else [.run ['.'], value.leafToken] := by
  cases value <;> simp_all [isLeaf, tailTokens, isNil]

/-- The characters of words that each have a space in front. -/
def spaced (words : List String) : List Char :=
  words.flatMap fun word => ' ' :: word.toList

theorem toList_intercalate_cons (head : String) (tail : List String) :
    (" ".intercalate (head :: tail)).toList = head.toList ++ spaced tail := by
  induction tail generalizing head with
  | nil => simp [spaced]
  | cons word tail inductionHypothesis =>
      rw [String.intercalate_cons_of_ne_nil (by simp), String.toList_append, inductionHypothesis]
      simp [spaced]

theorem toList_of_print_quote {text : String} (printed : (quote form).print = .ok text) :
    ∃ inner, form.print = .ok inner ∧ text.toList = '\x27' :: inner.toList := by
  rw [print] at printed
  cases inside : form.print with
  | error kind => simp [inside, bind, Except.bind] at printed
  | ok inner =>
      simp only [inside, bind, Except.bind, Except.ok.injEq] at printed
      exact ⟨inner, rfl, by simp [← printed]⟩

theorem toList_of_print_cell {text : String} (printed : (cell first rest).print = .ok text) :
    ∃ head tail, first.print = .ok head ∧ rest.printRest = .ok tail ∧
      text.toList = '(' :: (head.toList ++ (spaced tail ++ [')'])) := by
  rw [print] at printed
  cases atFirst : first.print with
  | error kind => simp [atFirst, bind, Except.bind] at printed
  | ok head =>
      cases atRest : rest.printRest with
      | error kind => simp [atFirst, atRest, bind, Except.bind] at printed
      | ok tail =>
          simp only [atFirst, atRest, bind, Except.bind, Except.ok.injEq] at printed
          refine ⟨head, tail, rfl, rfl, ?_⟩
          rw [← printed, String.toList_append, String.toList_append, toList_intercalate_cons]
          simp

theorem spaced_of_printRest_quote {words : List String}
    (printed : (quote form).printRest = .ok words) :
    ∃ inner, form.print = .ok inner ∧
      spaced words = ' ' :: '.' :: ' ' :: '\x27' :: inner.toList := by
  rw [printRest] at printed
  cases inside : form.print with
  | error kind => simp [inside, bind, Except.bind] at printed
  | ok inner =>
      simp only [inside, bind, Except.bind, Except.ok.injEq] at printed
      exact ⟨inner, rfl, by simp [← printed, spaced]⟩

theorem spaced_of_printRest_cell {words : List String}
    (printed : (cell first rest).printRest = .ok words) :
    ∃ head tail, first.print = .ok head ∧ rest.printRest = .ok tail ∧
      spaced words = ' ' :: (head.toList ++ spaced tail) := by
  rw [printRest] at printed
  cases atFirst : first.print with
  | error kind => simp [atFirst, bind, Except.bind] at printed
  | ok head =>
      cases atRest : rest.printRest with
      | error kind => simp [atFirst, atRest, bind, Except.bind] at printed
      | ok tail =>
          simp only [atFirst, atRest, bind, Except.bind, Except.ok.injEq] at printed
          exact ⟨head, tail, rfl, rfl, by simp [← printed, spaced]⟩

theorem spaced_of_printRest_leaf {words : List String} (leaf : value.isLeaf = true)
    (printed : value.printRest = .ok words) :
    if value.isNil then words = []
    else ∃ text, value.printLeaf = .ok text ∧ spaced words = ' ' :: '.' :: ' ' :: text.toList := by
  rw [printRest_of_isLeaf leaf] at printed
  split_ifs at printed ⊢ with isNil
  · exact (Except.ok.inj printed).symm
  · cases inside : value.printLeaf with
    | error kind => simp [inside, Except.map] at printed
    | ok text =>
        simp only [inside, Except.map, Except.ok.injEq] at printed
        exact ⟨text, rfl, by simp [← printed, spaced]⟩

/-- The words that follow the first element of a list are set off from it. -/
theorem isBoundary_spaced (words : List String) {after : List Char} (boundary : IsBoundary after) :
    IsBoundary (spaced words ++ after) := by
  cases words with
  | nil => simpa [spaced] using boundary
  | cons word words => exact isBoundary_cons (by decide) _

/-- A leaf is one token. -/
theorem scan_printLeaf {text : String} (printed : value.printLeaf = .ok text)
    (escaped : value.HasEscapedText) {after : List Char} (boundary : IsBoundary after) :
    scan (text.toList ++ after) = (scan after).map (value.leafToken :: ·) := by
  have nilRun : IsRun ['n', 'i', 'l'] := .of_all (by decide) (by decide)
  have trueRun : IsRun ['t'] := .of_all (by decide) (by decide)
  cases value <;> simp only [printLeaf, Except.ok.injEq, reduceCtorEq] at printed <;>
    subst printed
  case absent => exact scan_run nilRun boundary
  case nil => exact scan_run nilRun boundary
  case truth flag =>
      cases flag
      exacts [scan_run nilRun boundary, scan_run trueRun boundary]
  case int number => exact scan_run (isRun_toString number) boundary
  case float number => exact scan_run (isRun_printFloat number) boundary
  case text contents => simpa [leafToken] using scan_literal contents.toList after escaped
  case symbol symbol => exact scan_run (isRun_of_symbolFlaw? symbol.sound).1 boundary
  case keyword keyword =>
      simpa [leafToken] using scan_run (isRun_of_keywordFlaw? keyword.sound) boundary

/-- The tokens of the printed value come first, those of the text after it follow. -/
structure IsScanned (value : Value) : Prop where
  form {text : String} (printed : value.print = .ok text) {after : List Char}
    (boundary : IsBoundary after) :
    scan (text.toList ++ after) = (scan after).map (value.tokens ++ ·)
  tail {words : List String} (printed : value.printRest = .ok words) {after : List Char}
    (boundary : IsBoundary after) :
    scan (spaced words ++ after) = (scan after).map (value.tailTokens ++ ·)

theorem scan_point {after : List Char} :
    scan ('.' :: ' ' :: after) = (scan after).map (.run ['.'] :: ·) := by
  have point : IsRun ['.'] := .of_all (by decide) (by decide)
  have boundary : IsBoundary (' ' :: after) := isBoundary_cons (by decide) after
  simpa using scan_run point boundary

theorem isScanned_of_isLeaf (leaf : value.isLeaf = true) (escaped : value.HasEscapedText) :
    IsScanned value := by
  constructor
  · intro text printed after boundary
    rw [print_of_isLeaf leaf] at printed
    rw [tokens_of_isLeaf leaf]
    exact scan_printLeaf printed escaped boundary
  · intro words printed after boundary
    have shape := spaced_of_printRest_leaf leaf printed
    rw [tailTokens_of_isLeaf leaf]
    split_ifs at shape ⊢
    · simp [shape, spaced]
    · obtain ⟨text, printedLeaf, shape⟩ := shape
      simp [shape, scan_point, scan_printLeaf printedLeaf escaped boundary, Function.comp_def]

theorem isScanned_quote (inside : IsScanned form) : IsScanned (.quote form) := by
  constructor
  · intro text printed after boundary
    obtain ⟨inner, printedForm, shape⟩ := toList_of_print_quote printed
    simp [shape, tokens, inside.form printedForm boundary, Function.comp_def]
  · intro words printed after boundary
    obtain ⟨inner, printedForm, shape⟩ := spaced_of_printRest_quote printed
    simp [shape, tailTokens, scan_point, inside.form printedForm boundary, Function.comp_def]

theorem isScanned_cell (atFirst : IsScanned first) (atRest : IsScanned rest) :
    IsScanned (.cell first rest) := by
  constructor
  · intro text printed after boundary
    obtain ⟨head, tail, printedFirst, printedRest, shape⟩ := toList_of_print_cell printed
    have closing : IsBoundary (')' :: after) := isBoundary_cons (by decide) after
    simp [shape, tokens, atFirst.form printedFirst (isBoundary_spaced tail closing),
      atRest.tail printedRest closing, Function.comp_def]
  · intro words printed after boundary
    obtain ⟨head, tail, printedFirst, printedRest, shape⟩ := spaced_of_printRest_cell printed
    simp [shape, tailTokens, atFirst.form printedFirst (isBoundary_spaced tail boundary),
      atRest.tail printedRest boundary, Function.comp_def]

theorem isScanned (value : Value) (escaped : value.OnLeaves HasEscapedText) : IsScanned value := by
  induction value using formInduction with
  | leaf value leaf => exact isScanned_of_isLeaf leaf ((onLeaves_of_isLeaf leaf).mp escaped)
  | quote form inside => exact isScanned_quote (inside escaped)
  | cell first rest atFirst atRest => exact isScanned_cell (atFirst escaped.1) (atRest escaped.2)

/-- The tokens of a printed form are those read off its parts. -/
theorem scan_of_print {text : String} (printed : value.print = .ok text)
    (escaped : value.OnLeaves HasEscapedText) : scan text.toList = some value.tokens := by
  have whole := (isScanned value escaped).form printed isBoundary_nil
  simpa using whole

end EmacsSession.Value
