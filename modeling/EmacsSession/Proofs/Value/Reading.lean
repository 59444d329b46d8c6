/-
This file shows that a printed form determines how the value is read.
-/

import EmacsSession.Proofs.Value.Tokens

namespace EmacsSession

theorem toDigits_inj {left right : Nat} (same : Nat.toDigits 10 left = Nat.toDigits 10 right) :
    left = right := by
  rw [← Nat.ofDigitChars_toDigits (n := left) (b := 10) (by decide) (by decide), same,
    Nat.ofDigitChars_toDigits (by decide) (by decide)]

theorem toString_inj {left right : Int}
    (same : (toString left).toList = (toString right).toList) : left = right := by
  have noSign (number rest : Nat) : Nat.toDigits 10 number ≠ '-' :: Nat.toDigits 10 rest := by
    intro shape
    have digit : ('-').isDigit = true :=
      Nat.isDigit_of_mem_toDigits (b := 10) (n := number) (by decide) (by decide) (by simp [shape])
    exact absurd digit (by decide)
  cases left with
  | ofNat left =>
      cases right with
      | ofNat right =>
          rw [toList_toString_ofNat, toList_toString_ofNat] at same
          rw [toDigits_inj same]
      | negSucc right =>
          rw [toList_toString_ofNat, toList_toString_negSucc] at same
          exact absurd same (noSign left (right + 1))
  | negSucc left =>
      cases right with
      | ofNat right =>
          rw [toList_toString_ofNat, toList_toString_negSucc] at same
          exact absurd same.symm (noSign right (left + 1))
      | negSucc right =>
          rw [toList_toString_negSucc, toList_toString_negSucc] at same
          have magnitude := toDigits_inj (List.cons.inj same).2
          rw [Nat.succ.inj magnitude]

theorem toString_ne_point (number : Int) : (toString number).toList ≠ ['.'] := by
  intro shape
  have member : '.' ∈ (toString number).toList := shape ▸ List.mem_singleton.mpr rfl
  exact absurd (isDigit_of_mem_toString member) (by decide)

namespace Value

open Token

/-- The value that is read: the absent value and false are read as nil. -/
def reading : Value → Value
  | .absent => .nil
  | .truth false => .nil
  | .quote form => .quote form.reading
  | .cell first rest => .cell first.reading rest.reading
  | value => value

/-- A leaf is no float, a text is well escaped, and a symbol is not written as a keyword, nil, true
or an integer is. -/
def IsPlain : Value → Prop
  | .float _ => False
  | .text value => isEscaped value.toList = true
  | .symbol value =>
      value.name.toList.head? ≠ some ':' ∧ value.name ≠ "nil" ∧ value.name ≠ "t" ∧
        ∀ number : Int, value.name ≠ toString number
  | _ => True

/-- A leaf is plain and has a printed form. -/
def IsTold (value : Value) : Prop :=
  value.IsPlain ∧ ∃ text, value.printLeaf = .ok text

variable {value first rest form other : Value} {holds : Value → Prop}

theorem hasEscapedText_of_isPlain (plain : value.IsPlain) : value.HasEscapedText := by
  cases value <;> simp_all [IsPlain, HasEscapedText]

theorem OnLeaves.imp {weaker : Value → Prop} (weaken : ∀ leaf, holds leaf → weaker leaf)
    (onLeaves : value.OnLeaves holds) : value.OnLeaves weaker := by
  induction value using formInduction with
  | leaf value leaf =>
      rw [onLeaves_of_isLeaf leaf] at onLeaves ⊢
      exact weaken value onLeaves
  | quote form inside => exact inside onLeaves
  | cell first rest atFirst atRest => exact ⟨atFirst onLeaves.1, atRest onLeaves.2⟩

/-- Every leaf of a form with a printed form has one itself. -/
theorem isTold_of_print (plain : value.OnLeaves IsPlain) :
    ((∃ text, value.print = .ok text) → value.OnLeaves IsTold) ∧
      ((∃ words, value.printRest = .ok words) → value.OnLeaves IsTold) := by
  induction value using formInduction with
  | leaf value leaf =>
      rw [onLeaves_of_isLeaf leaf] at plain ⊢
      refine ⟨fun ⟨written, printed⟩ => ⟨plain, written, print_of_isLeaf leaf ▸ printed⟩, ?_⟩
      rintro ⟨words, printed⟩
      have shape := spaced_of_printRest_leaf leaf printed
      split_ifs at shape with isNil
      · cases value <;> simp_all [Value.isNil, IsTold, printLeaf]
      · obtain ⟨text, printedLeaf, -⟩ := shape
        exact ⟨plain, text, printedLeaf⟩
  | quote form inside =>
      refine ⟨?_, ?_⟩
      · rintro ⟨text, printed⟩
        obtain ⟨inner, printedForm, -⟩ := toList_of_print_quote printed
        exact (inside plain).1 ⟨inner, printedForm⟩
      · rintro ⟨words, printed⟩
        obtain ⟨inner, printedForm, -⟩ := spaced_of_printRest_quote printed
        exact (inside plain).1 ⟨inner, printedForm⟩
  | cell first rest atFirst atRest =>
      refine ⟨?_, ?_⟩
      · rintro ⟨text, printed⟩
        obtain ⟨head, tail, printedFirst, printedRest, -⟩ := toList_of_print_cell printed
        exact ⟨(atFirst plain.1).1 ⟨head, printedFirst⟩, (atRest plain.2).2 ⟨tail, printedRest⟩⟩
      · rintro ⟨words, printed⟩
        obtain ⟨head, tail, printedFirst, printedRest, -⟩ := spaced_of_printRest_cell printed
        exact ⟨(atFirst plain.1).1 ⟨head, printedFirst⟩, (atRest plain.2).2 ⟨tail, printedRest⟩⟩

/-- An integer is written with numeral characters only. -/
theorem toString_ne_of_mem (character : Char) (other : isNumeralCharacter character = false)
    {word : List Char} (member : character ∈ word) (number : Int) :
    (toString number).toList ≠ word := by
  rintro rfl
  simp [isNumeralCharacter_of_mem_toString member] at other

theorem ofName_symbol (symbol : Symbol) : Symbol.ofName symbol.name = .ok symbol := by
  unfold Symbol.ofName
  split
  · rfl
  · simp_all [symbol.sound]

theorem ofName_keyword (keyword : Keyword) : Keyword.ofName keyword.name = .ok keyword := by
  unfold Keyword.ofName
  split
  · rfl
  · simp_all [keyword.sound]

/-- The symbol or keyword that a word names. -/
def ofWord : List Char → Value
  | ':' :: name => ((Keyword.ofName (String.ofList name)).map Value.keyword).toOption.getD .nil
  | name => ((Symbol.ofName (String.ofList name)).map Value.symbol).toOption.getD .nil

open Classical in
/-- The leaf that a token is read as. -/
noncomputable def ofToken : Token → Value
  | .literal contents => .text (String.ofList contents)
  | .run word =>
      if word = ['n', 'i', 'l'] then .nil
      else if word = ['t'] then .truth true
      else if written : ∃ number : Int, (toString number).toList = word then .int written.choose
      else ofWord word
  | _ => .nil

theorem ofToken_int (number : Int) : ofToken (.run (toString number).toList) = .int number := by
  have notNil : (toString number).toList ≠ ['n', 'i', 'l'] :=
    toString_ne_of_mem 'n' (by decide) (by simp) number
  have notTrue : (toString number).toList ≠ ['t'] :=
    toString_ne_of_mem 't' (by decide) (by simp) number
  have written : ∃ other : Int, (toString other).toList = (toString number).toList := ⟨number, rfl⟩
  simp only [ofToken, if_neg notNil, if_neg notTrue, dif_pos written]
  rw [toString_inj written.choose_spec]

theorem ofToken_symbol {symbol : Symbol} (plain : (Value.symbol symbol).IsPlain) :
    ofToken (.run symbol.name.toList) = .symbol symbol := by
  obtain ⟨noColon, notNil, notTrue, noNumber⟩ := plain
  have isSymbol : ofWord symbol.name.toList = .symbol symbol := by
    unfold ofWord
    split
    · rename_i name shape
      simp [shape] at noColon
    · simp [ofName_symbol, Except.map, Except.toOption]
  have unwritten : ¬∃ number : Int, (toString number).toList = symbol.name.toList := by
    rintro ⟨number, same⟩
    exact noNumber number (String.toList_inj.mp same.symm)
  have notNil : symbol.name.toList ≠ ['n', 'i', 'l'] := fun same =>
    notNil (String.toList_inj.mp same)
  have notTrue : symbol.name.toList ≠ ['t'] := fun same => notTrue (String.toList_inj.mp same)
  simp only [ofToken, if_neg notNil, if_neg notTrue, dif_neg unwritten, isSymbol]

theorem ofToken_keyword (keyword : Keyword) :
    ofToken (.run (':' :: keyword.name.toList)) = .keyword keyword := by
  have unwritten : ¬∃ number : Int, (toString number).toList = ':' :: keyword.name.toList := by
    rintro ⟨number, same⟩
    exact toString_ne_of_mem ':' (by decide) (by simp) number same
  rw [ofToken, if_neg (by simp), if_neg (by simp), dif_neg unwritten]
  simp [ofWord, ofName_keyword, Except.map, Except.toOption]

/-- A leaf is read back from its token. -/
theorem reading_eq_ofToken (told : value.IsTold) (leaf : value.isLeaf = true) :
    value.reading = ofToken value.leafToken := by
  obtain ⟨plain, text, printed⟩ := told
  cases value <;> simp only [isLeaf, printLeaf, reduceCtorEq, IsPlain] at leaf printed plain
  case absent => simp [reading, leafToken, ofToken]
  case nil => simp [reading, leafToken, ofToken]
  case truth flag => cases flag <;> simp [reading, leafToken, ofToken]
  case int number => exact (ofToken_int number).symm
  case text contents => simp [reading, leafToken, ofToken]
  case symbol symbol => exact (ofToken_symbol plain).symm
  case keyword keyword => exact (ofToken_keyword keyword).symm

theorem reading_of_leafToken (told : value.IsTold) (otherTold : other.IsTold)
    (leaf : value.isLeaf = true) (otherLeaf : other.isLeaf = true)
    (same : value.leafToken = other.leafToken) : value.reading = other.reading := by
  rw [reading_eq_ofToken told leaf, reading_eq_ofToken otherTold otherLeaf, same]

/-- The token of a leaf has no meaning outside of leaves. -/
structure IsOfLeaf (token : Token) : Prop where
  notOpening : token ≠ .opening
  notClosing : token ≠ .closing
  notQuoteMark : token ≠ .quoteMark
  notPoint : token ≠ .run ['.']

theorem isOfLeaf_leafToken (told : value.IsTold) : IsOfLeaf value.leafToken := by
  obtain ⟨plain, text, printed⟩ := told
  cases value <;> simp only [printLeaf, reduceCtorEq, IsPlain] at printed plain
  case truth flag => cases flag <;> constructor <;> simp [leafToken]
  case int number =>
      refine ⟨by simp [leafToken], by simp [leafToken], by simp [leafToken], fun same => ?_⟩
      exact toString_ne_point number (Token.run.inj same)
  case symbol symbol =>
      refine ⟨by simp [leafToken], by simp [leafToken], by simp [leafToken], fun same => ?_⟩
      exact (isRun_of_symbolFlaw? symbol.sound).2 (Token.run.inj same)
  all_goals constructor <;> simp [leafToken]

/-- The first token of a form is neither a closing bracket nor a point. -/
theorem tokens_head (told : value.OnLeaves IsTold) :
    ∃ token others, value.tokens = token :: others ∧ token ≠ .closing ∧ token ≠ .run ['.'] := by
  cases leaf : value.isLeaf with
  | true =>
      rw [onLeaves_of_isLeaf leaf] at told
      have ofLeaf := isOfLeaf_leafToken told
      exact ⟨_, [], tokens_of_isLeaf leaf, ofLeaf.notClosing, ofLeaf.notPoint⟩
  | false =>
      cases value <;> simp only [isLeaf, reduceCtorEq] at leaf
      case quote form => exact ⟨.quoteMark, _, by rw [tokens], by simp, by simp⟩
      case cell first rest => exact ⟨.opening, _, by rw [tokens], by simp, by simp⟩

/-- The rest of a list is a further cell, or an end without tokens, or a point and its last part. -/
theorem tailTokens_cases (value : Value) :
    (∃ first rest, value = .cell first rest) ∨ (value.isNil = true ∧ value.tailTokens = []) ∨
      value.tailTokens = .run ['.'] :: value.tokens := by
  cases leaf : value.isLeaf with
  | true =>
      rw [tailTokens_of_isLeaf leaf, tokens_of_isLeaf leaf]
      cases isNil : value.isNil <;> simp
  | false => cases value <;> simp_all [isLeaf, tailTokens, tokens]

theorem reading_of_isNil (isNil : value.isNil = true) : value.reading = .nil := by
  cases value <;> simp_all [Value.isNil, reading]

/-- The tokens of a form end where the form does, and tell how it is read. -/
def TellsForm (value : Value) : Prop :=
  ∀ other : Value, other.OnLeaves IsTold → ∀ after otherAfter : List Token,
    value.tokens ++ after = other.tokens ++ otherAfter →
      value.reading = other.reading ∧ after = otherAfter

/-- The tokens of the rest of a list end at the closing bracket, and tell how it is read. -/
def TellsTail (value : Value) : Prop :=
  ∀ other : Value, other.OnLeaves IsTold → ∀ after otherAfter : List Token,
    value.tailTokens ++ .closing :: after = other.tailTokens ++ .closing :: otherAfter →
      value.reading = other.reading ∧ after = otherAfter

theorem tellsForm_of_isLeaf (told : value.IsTold) (leaf : value.isLeaf = true) :
    TellsForm value := by
  intro other otherTold after otherAfter same
  have ofLeaf := isOfLeaf_leafToken told
  rw [tokens_of_isLeaf leaf] at same
  cases otherLeaf : other.isLeaf with
  | true =>
      rw [onLeaves_of_isLeaf otherLeaf] at otherTold
      rw [tokens_of_isLeaf otherLeaf] at same
      obtain ⟨sameToken, sameAfter⟩ := List.cons.inj same
      exact ⟨reading_of_leafToken told otherTold leaf otherLeaf sameToken, sameAfter⟩
  | false =>
      cases other <;> simp only [isLeaf, reduceCtorEq] at otherLeaf
      case quote form => exact absurd (List.cons.inj same).1 ofLeaf.notQuoteMark
      case cell first rest => exact absurd (List.cons.inj same).1 ofLeaf.notOpening

theorem tellsForm_quote (inside : TellsForm form) : TellsForm (.quote form) := by
  intro other otherTold after otherAfter same
  rw [tokens] at same
  cases otherLeaf : other.isLeaf with
  | true =>
      rw [onLeaves_of_isLeaf otherLeaf] at otherTold
      rw [tokens_of_isLeaf otherLeaf] at same
      exact absurd (List.cons.inj same).1.symm (isOfLeaf_leafToken otherTold).notQuoteMark
  | false =>
      cases other <;> simp only [isLeaf, reduceCtorEq] at otherLeaf
      case quote otherForm =>
          rw [tokens] at same
          obtain ⟨sameReading, sameAfter⟩ :=
            inside otherForm otherTold after otherAfter (List.cons.inj same).2
          exact ⟨by rw [reading, reading, sameReading], sameAfter⟩
      case cell first rest => simp [tokens] at same

/-- A list is told by its first element and the rest up to its closing bracket. -/
theorem tellsForm_cell (atFirst : TellsForm first) (atRest : TellsTail rest) :
    TellsForm (.cell first rest) := by
  intro other otherTold after otherAfter same
  rw [tokens] at same
  cases otherLeaf : other.isLeaf with
  | true =>
      rw [onLeaves_of_isLeaf otherLeaf] at otherTold
      rw [tokens_of_isLeaf otherLeaf] at same
      exact absurd (List.cons.inj same).1.symm (isOfLeaf_leafToken otherTold).notOpening
  | false =>
      cases other <;> simp only [isLeaf, reduceCtorEq] at otherLeaf
      case quote form => simp [tokens] at same
      case cell otherFirst otherRest =>
          simp only [tokens, List.cons_append, List.append_assoc, List.cons.injEq, true_and,
            List.nil_append] at same
          obtain ⟨sameFirst, sameTail⟩ := atFirst otherFirst otherTold.1 _ _ same
          obtain ⟨sameRest, sameAfter⟩ := atRest otherRest otherTold.2 _ _ sameTail
          exact ⟨by rw [reading, reading, sameFirst, sameRest], sameAfter⟩

/-- A further element is not taken for the end of a list. -/
theorem tailTokens_cell_ne (told : first.OnLeaves IsTold) {token : Token} {after later : List Token}
    (atEnd : token = .closing ∨ token = .run ['.']) :
    (cell first rest).tailTokens ++ after ≠ token :: later := by
  obtain ⟨head, others, shape, notClosing, notPoint⟩ := tokens_head told
  rw [tailTokens, shape]
  intro same
  have sameHead : head = token := (List.cons.inj same).1
  rcases atEnd with rfl | rfl
  · exact notClosing sameHead
  · exact notPoint sameHead

theorem tellsTail_of_notCell (tellsForm : TellsForm value)
    (notCell : ¬∃ first rest, value = .cell first rest) : TellsTail value := by
  intro other otherTold after otherAfter same
  rcases tailTokens_cases other with
    ⟨otherFirst, otherRest, rfl⟩ | ⟨otherNil, otherShape⟩ | otherShape
  · -- A further element of the other list stands where this list ends.
    rcases tailTokens_cases value with isCell | ⟨-, shape⟩ | shape
    · exact absurd isCell notCell
    · rw [shape] at same
      exact absurd same.symm (tailTokens_cell_ne otherTold.1 (.inl rfl))
    · rw [shape] at same
      exact absurd same.symm (tailTokens_cell_ne otherTold.1 (.inr rfl))
  · rcases tailTokens_cases value with isCell | ⟨isNil, shape⟩ | shape
    · exact absurd isCell notCell
    · rw [shape, otherShape] at same
      exact ⟨by rw [reading_of_isNil isNil, reading_of_isNil otherNil], (List.cons.inj same).2⟩
    · simp [shape, otherShape] at same
  · rcases tailTokens_cases value with isCell | ⟨-, shape⟩ | shape
    · exact absurd isCell notCell
    · simp [shape, otherShape] at same
    · rw [shape, otherShape] at same
      obtain ⟨sameReading, sameAfter⟩ := tellsForm other otherTold _ _ (List.cons.inj same).2
      exact ⟨sameReading, (List.cons.inj sameAfter).2⟩

theorem tellsTail_cell (told : first.OnLeaves IsTold) (atFirst : TellsForm first)
    (atRest : TellsTail rest) : TellsTail (.cell first rest) := by
  intro other otherTold after otherAfter same
  rcases tailTokens_cases other with ⟨otherFirst, otherRest, rfl⟩ | ⟨-, otherShape⟩ | otherShape
  · simp only [tailTokens, List.append_assoc] at same
    obtain ⟨sameFirst, sameTail⟩ := atFirst otherFirst otherTold.1 _ _ same
    obtain ⟨sameRest, sameAfter⟩ := atRest otherRest otherTold.2 _ _ sameTail
    exact ⟨by rw [reading, reading, sameFirst, sameRest], sameAfter⟩
  · rw [otherShape] at same
    exact absurd same (tailTokens_cell_ne told (.inl rfl))
  · rw [otherShape] at same
    exact absurd same (tailTokens_cell_ne told (.inr rfl))

theorem tells (value : Value) (told : value.OnLeaves IsTold) :
    TellsForm value ∧ TellsTail value := by
  induction value using formInduction with
  | leaf value leaf =>
      rw [onLeaves_of_isLeaf leaf] at told
      have tellsForm := tellsForm_of_isLeaf told leaf
      refine ⟨tellsForm, tellsTail_of_notCell tellsForm ?_⟩
      rintro ⟨first, rest, rfl⟩
      simp [isLeaf] at leaf
  | quote form inside =>
      have tellsForm := tellsForm_quote (inside told).1
      exact ⟨tellsForm, tellsTail_of_notCell tellsForm (by simp)⟩
  | cell first rest atFirst atRest =>
      have tellsFirst := (atFirst told.1).1
      have tellsRest := (atRest told.2).2
      exact ⟨tellsForm_cell tellsFirst tellsRest, tellsTail_cell told.1 tellsFirst tellsRest⟩

/-- Values of one printed form are the same tree, once the absent value and false are read as
nil. -/
theorem reading_eq_of_print_eq {text : String} (plain : value.OnLeaves IsPlain)
    (otherPlain : other.OnLeaves IsPlain) (printed : value.print = .ok text)
    (otherPrinted : other.print = .ok text) : value.reading = other.reading := by
  have told := (isTold_of_print plain).1 ⟨text, printed⟩
  have otherTold := (isTold_of_print otherPlain).1 ⟨text, otherPrinted⟩
  have scanned := scan_of_print printed (plain.imp fun _ => hasEscapedText_of_isPlain)
  have otherScanned :=
    scan_of_print otherPrinted (otherPlain.imp fun _ => hasEscapedText_of_isPlain)
  have same : value.tokens = other.tokens := Option.some.inj (scanned.symm.trans otherScanned)
  exact ((tells value told).1 other otherTold [] [] (by rw [same])).1

/-- The symbol `a`. -/
def sampleSymbol : Symbol := ⟨"a", by decide⟩

theorem isPlain_sampleSymbol : (Value.symbol sampleSymbol).IsPlain := by
  refine ⟨by decide, by decide, by decide, fun number same => ?_⟩
  have written : (toString number).toList = ['a'] := (congrArg String.toList same).symm
  exact toString_ne_of_mem 'a' (by decide) (by simp) number written

/-- A dotted list with a quote in front and an absent value or false inside. -/
def sampleList (inside : Value) : Value :=
  .cell (.quote (.symbol sampleSymbol)) (.cell inside (.text "b"))

/-- The absent value and false are printed alike. -/
theorem reading_eq_sampleList :
    (sampleList .absent).print = .ok "('a nil . \"b\")" ∧
      (sampleList (.truth false)).print = .ok "('a nil . \"b\")" ∧
        (sampleList .absent).reading = (sampleList (.truth false)).reading := by
  have plain (inside : Value) (insidePlain : inside.OnLeaves IsPlain) :
      (sampleList inside).OnLeaves IsPlain := ⟨isPlain_sampleSymbol, insidePlain, rfl⟩
  exact ⟨rfl, rfl, reading_eq_of_print_eq (plain .absent trivial) (plain (.truth false) trivial)
    rfl rfl⟩

end Value

end EmacsSession
