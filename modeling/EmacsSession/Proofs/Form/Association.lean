/-
This file shows the shape of association lists and the printed forms of their entries.
-/

import EmacsSession.Proofs.Value.Chain

namespace EmacsSession

namespace Value

/-- The elements of a chain of cells. -/
def elements : Value → List Value
  | .cell first rest => first :: rest.elements
  | _ => []

/-- The part that a chain of cells ends in. -/
def lastPart : Value → Value
  | .cell _ rest => rest.lastPart
  | value => value

/-- What a value becomes as a part of a list: the absent value becomes nil, and any other one stays
as it is. -/
def orNil : Value → Value
  | .absent => .nil
  | value => value

/-- The items of a sequence that is no chain of cells. -/
def sequence? : Value → Option (List Value)
  | .list items => some items
  | .tuple items => some items
  | _ => none

/-- The printed forms of an entry with the printed key, by the kind of its value. -/
inductive IsEntryText (key : String) : Value → String → Prop where
  /-- Nil does not show. -/
  | nil {value : Value} (isNil : value.orNil = .nil) : IsEntryText key value ("(" ++ key ++ ")")
  /-- An empty sequence is nil. -/
  | empty {value : Value} (isSequence : value.sequence? = some []) :
      IsEntryText key value ("(" ++ key ++ ")")
  /-- The items of a sequence follow the key. -/
  | sequence {value item : Value} {items : List Value} {texts : List String}
      (isSequence : value.sequence? = some (item :: items))
      (printed : (item :: items).mapM print = .ok texts) :
      IsEntryText key value ("(" ++ " ".intercalate (key :: texts) ++ ")")
  /-- The elements of a chain that ends in nil follow the key. -/
  | proper {value : Value} {texts : List String} (isCell : value.kind = .cell)
      (isProper : value.lastPart.orNil = .nil) (printed : value.elements.mapM print = .ok texts) :
      IsEntryText key value ("(" ++ " ".intercalate (key :: texts) ++ ")")
  /-- The elements of any other chain follow the key, and its end follows a point. -/
  | dotted {value : Value} {texts : List String} {last : String} (isCell : value.kind = .cell)
      (improper : value.lastPart.orNil ≠ .nil) (printed : value.elements.mapM print = .ok texts)
      (printedLast : value.lastPart.print = .ok last) :
      IsEntryText key value ("(" ++ " ".intercalate (key :: texts) ++ " . " ++ last ++ ")")
  /-- Any other value follows a point. -/
  | pair {value : Value} {text : String} (notNil : value.orNil ≠ .nil)
      (notSequence : value.sequence? = none) (notCell : value.kind ≠ .cell)
      (printed : value.print = .ok text) :
      IsEntryText key value ("(" ++ key ++ " . " ++ text ++ ")")

/-- What stands behind the key in the cell of an entry: the proper list of the items of a sequence,
or the value itself, or nil where that is absent. -/
inductive IsEntryRest : Value → Value → Prop where
  | sequence {value rest : Value} {items : List Value} (isSequence : value.sequence? = some items)
      (items_eq : rest.elements = items.map orNil) (proper : rest.lastPart = .nil) :
      IsEntryRest value rest
  | other {value : Value} (notSequence : value.sequence? = none) : IsEntryRest value value.orNil

/-- The form is the association list of the entries. -/
structure IsAssociation (entries : List (Value × Value)) (form : Value) : Prop where
  /-- It is a proper list. -/
  proper : form.lastPart = .nil
  /-- There is one cell for every entry. -/
  count : form.elements.length = entries.length
  /-- The cells have the order of the entries, with the keys as their first halves, and nil for an
  absent key. -/
  cell : ∀ {index : Nat} {key value : Value}, entries[index]? = some (key, value) →
    ∃ rest, form.elements[index]? = some (.cell key.orNil rest) ∧
      value.IsEntryRest rest
  /-- Each cell is printed by the kind of the value of its entry, and just where its parts are. -/
  text : ∀ {index : Nat} {key value : Value}, entries[index]? = some (key, value) →
    ∃ entry, form.elements[index]? = some entry ∧
      ∀ text, entry.print = .ok text ↔
        ∃ printedKey, key.print = .ok printedKey ∧ value.IsEntryText printedKey text

variable {value first rest : Value} {text : String}

theorem isNil_iff : value.isNil = true ↔ value.orNil = .nil := by
  cases value <;> simp [isNil, orNil]

theorem isNil_eq_false_iff : value.isNil = false ↔ value.orNil ≠ .nil := by
  rw [← Bool.not_eq_true, isNil_iff]

theorem nilIfAbsent_eq_orNil (value : Value) : Form.nilIfAbsent value = value.orNil := by
  cases value <;> rfl

theorem orNil_list (items : List Value) : (Form.list items).orNil = Form.list items := by
  cases items <;> rfl

theorem elements_list (items : List Value) :
    (Form.list items).elements = items.map orNil ∧ (Form.list items).lastPart = .nil := by
  induction items with
  | nil => exact ⟨rfl, rfl⟩
  | cons item items inductionHypothesis =>
      rw [Form.list, Form.cons, nilIfAbsent_eq_orNil, nilIfAbsent_eq_orNil, orNil_list, elements,
        lastPart, inductionHypothesis.1]
      exact ⟨rfl, inductionHypothesis.2⟩

theorem elements_of_notCell (notCell : value.kind ≠ .cell) :
    value.elements = [] ∧ value.lastPart = value := by
  cases value <;> first | exact ⟨rfl, rfl⟩ | exact absurd rfl notCell

/-- The texts of the elements of a chain, with a point and the text of its end where that is not
nil. -/
def chainWords (value : Value) : Except Kind (List String) := do
  let texts ← value.elements.mapM print
  if value.lastPart.isNil then .ok texts
  else
    let last ← value.lastPart.print
    .ok (texts ++ [".", last])

theorem printRest_eq_of_notCell (notCell : value.kind ≠ .cell) :
    value.printRest = value.chainWords := by
  obtain ⟨noElements, isLast⟩ := elements_of_notCell notCell
  rw [printRest_of_notCell fun _ _ shape => notCell (congrArg kind shape), chainWords, noElements,
    isLast]
  cases value.isNil <;> cases value.print <;> rfl

theorem printRest_eq (value : Value) : value.printRest = value.chainWords := by
  induction value using formInduction with
  | leaf value leaf =>
      exact printRest_eq_of_notCell fun isCell => by cases value <;> simp_all [isLeaf, kind]
  | quote form inside => exact printRest_eq_of_notCell (by simp [kind])
  | cell first rest atFirst atRest =>
      rw [printRest, atRest, chainWords, chainWords, elements, lastPart, List.mapM_cons]
      cases first.print <;> cases rest.elements.mapM print <;> cases rest.lastPart.isNil <;>
        cases rest.lastPart.print <;> rfl

/-- The words behind the first element of a list are those of its chain. -/
theorem printRest_eq_ok_iff {words : List String} :
    value.printRest = .ok words ↔
      ∃ texts, value.elements.mapM print = .ok texts ∧
        (value.lastPart.isNil = true ∧ words = texts ∨
          value.lastPart.isNil = false ∧
            ∃ last, value.lastPart.print = .ok last ∧ words = texts ++ [".", last]) := by
  rw [printRest_eq, chainWords]
  cases value.elements.mapM print with
  | error kind => simp [bind, Except.bind]
  | ok texts =>
      cases value.lastPart.isNil <;> cases value.lastPart.print <;>
        simp [bind, Except.bind, eq_comm]

theorem printRest_orNil (value : Value) : value.orNil.printRest = value.printRest := by
  cases value <;> rfl

/-- A list is printed just where its first element and the words behind it are. -/
theorem print_cell_eq_ok_iff :
    (cell first rest).print = .ok text ↔
      ∃ head words, first.print = .ok head ∧ rest.printRest = .ok words ∧
        text = "(" ++ " ".intercalate (head :: words) ++ ")" := by
  rw [print]
  cases first.print <;> cases rest.printRest <;> simp [bind, Except.bind, eq_comm]

/-- The point of a dotted list stands between spaces as the words do. -/
theorem brackets_dotted (key last : String) (texts : List String) :
    "(" ++ " ".intercalate (key :: texts) ++ " . " ++ last ++ ")" =
      "(" ++ " ".intercalate (key :: (texts ++ [".", last])) ++ ")" := by
  apply String.toList_inj.mp
  simp only [String.toList_append, toList_intercalate_cons, spaced, List.flatMap_append]
  simp

theorem brackets_pair (key last : String) :
    "(" ++ key ++ " . " ++ last ++ ")" = "(" ++ " ".intercalate [key, ".", last] ++ ")" := by
  simpa using brackets_dotted key last []

end Value

namespace Form

open Value

variable {value : Value} {key text : String}

/-- What stands behind the key of an entry. -/
def entryRest (value : Value) : Value :=
  match value.sequence? with
  | some items => list items
  | none => value.orNil

theorem entry_eq (key value : Value) : entry key value = .cell key.orNil (entryRest value) := by
  cases value <;> simp [entry, entryRest, cons, sequence?, nilIfAbsent_eq_orNil, orNil_list]

theorem isEntryRest_entryRest (value : Value) : value.IsEntryRest (entryRest value) := by
  unfold entryRest
  split
  next items isSequence =>
    exact .sequence isSequence (elements_list items).1 (elements_list items).2
  next notSequence => exact .other notSequence

theorem printRest_entryRest_of_sequence {items : List Value}
    (isSequence : value.sequence? = some items) :
    (entryRest value).printRest = items.mapM print := by
  rw [entryRest, isSequence, printRest_list]

theorem printRest_entryRest_of_other (notSequence : value.sequence? = none) :
    (entryRest value).printRest = value.printRest := by
  rw [entryRest, notSequence, printRest_orNil]

theorem sequence?_of_isNil (isNil : value.isNil = true) : value.sequence? = none := by
  cases value <;> first | rfl | cases isNil

theorem sequence?_of_isCell (isCell : value.kind = .cell) : value.sequence? = none := by
  cases value <;> first | rfl | cases isCell

theorem printRest_of_isNil (isNil : value.isNil = true) : value.printRest = .ok [] := by
  cases value <;> first | rfl | cases isNil

/-- Every printed form of an entry is made of the words behind its key. -/
theorem printRest_of_isEntryText (isText : value.IsEntryText key text) :
    ∃ words, (entryRest value).printRest = .ok words ∧
      text = "(" ++ " ".intercalate (key :: words) ++ ")" := by
  cases isText with
  | nil isNil =>
      refine ⟨[], ?_, by simp⟩
      have shown := isNil_iff.mpr isNil
      rw [printRest_entryRest_of_other (sequence?_of_isNil shown), printRest_of_isNil shown]
  | empty isSequence => exact ⟨[], printRest_entryRest_of_sequence isSequence, by simp⟩
  | sequence isSequence printed =>
      exact ⟨_, printRest_entryRest_of_sequence isSequence ▸ printed, rfl⟩
  | proper isCell isProper printed =>
      refine ⟨_, ?_, rfl⟩
      rw [printRest_entryRest_of_other (sequence?_of_isCell isCell)]
      exact printRest_eq_ok_iff.mpr ⟨_, printed, .inl ⟨isNil_iff.mpr isProper, rfl⟩⟩
  | @dotted texts last isCell improper printed printedLast =>
      refine ⟨texts ++ [".", last], ?_, brackets_dotted key last texts⟩
      rw [printRest_entryRest_of_other (sequence?_of_isCell isCell)]
      exact printRest_eq_ok_iff.mpr
        ⟨texts, printed, .inr ⟨isNil_eq_false_iff.mpr improper, last, printedLast, rfl⟩⟩
  | @pair last notNil notSequence notCell printed =>
      obtain ⟨noElements, isLast⟩ := elements_of_notCell notCell
      refine ⟨[".", last], ?_, brackets_pair key last⟩
      rw [printRest_entryRest_of_other notSequence, printRest_eq_ok_iff, noElements, isLast]
      exact ⟨[], rfl, .inr ⟨isNil_eq_false_iff.mpr notNil, last, printed, rfl⟩⟩

/-- The words behind the key of an entry make one of its printed forms. -/
theorem isEntryText_of_printRest {words : List String}
    (printed : (entryRest value).printRest = .ok words) :
    value.IsEntryText key ("(" ++ " ".intercalate (key :: words) ++ ")") := by
  cases isSequence : value.sequence? with
  | some items =>
      rw [printRest_entryRest_of_sequence isSequence] at printed
      cases items with
      | nil =>
          obtain rfl := Except.ok.inj printed
          simpa using IsEntryText.empty isSequence
      | cons item items => exact .sequence isSequence printed
  | none =>
      rw [printRest_entryRest_of_other isSequence] at printed
      obtain ⟨texts, printedElements, ends⟩ := printRest_eq_ok_iff.mp printed
      by_cases isCell : value.kind = .cell
      · rcases ends with ⟨isProper, rfl⟩ | ⟨improper, last, printedLast, rfl⟩
        · exact .proper isCell (isNil_iff.mp isProper) printedElements
        · rw [← brackets_dotted]
          exact .dotted isCell (isNil_eq_false_iff.mp improper) printedElements printedLast
      · obtain ⟨noElements, isLast⟩ := elements_of_notCell isCell
        rw [noElements] at printedElements
        have noTexts : [] = texts := Except.ok.inj printedElements
        subst noTexts
        rw [isLast] at ends
        rcases ends with ⟨isNil, rfl⟩ | ⟨notNil, last, printedLast, rfl⟩
        · simpa using IsEntryText.nil (isNil_iff.mp isNil)
        · rw [List.nil_append, ← brackets_pair]
          exact .pair (isNil_eq_false_iff.mp notNil) isSequence isCell printedLast

/-- An entry is printed by the kind of its value, just where its key and the parts of its value
are. -/
theorem print_entry_iff {key value : Value} :
    (entry key value).print = .ok text ↔
      ∃ printedKey, key.print = .ok printedKey ∧ value.IsEntryText printedKey text := by
  rw [entry_eq, print_cell_eq_ok_iff, ← nilIfAbsent_eq_orNil, print_nilIfAbsent]
  constructor
  · rintro ⟨printedKey, words, printed, printedRest, rfl⟩
    exact ⟨printedKey, printed, isEntryText_of_printRest printedRest⟩
  · rintro ⟨printedKey, printed, isText⟩
    obtain ⟨words, printedRest, shape⟩ := printRest_of_isEntryText isText
    exact ⟨printedKey, words, printed, printedRest, shape⟩

theorem elements_alist (entries : List (Value × Value)) :
    (alist entries).elements = entries.map fun pair => entry pair.1 pair.2 := by
  rw [alist, (elements_list _).1, List.map_map]
  refine List.map_congr_left fun pair _ => ?_
  simp [entry_eq, orNil]

/-- The association list of a table is a proper list of one cell for every entry, in their order,
and each cell is printed by the kind of its value. -/
theorem isAssociation_alistOf (entries : List (Value × Value)) :
    ∃ form, alistOf (.table entries) = .ok form ∧ form.IsAssociation entries := by
  refine ⟨alist entries, rfl, (elements_list _).2, ?_, ?_, ?_⟩
  · simp [elements_alist]
  · intro index key value present
    refine ⟨entryRest value, ?_, isEntryRest_entryRest value⟩
    simp [elements_alist, present, entry_eq]
  · intro index key value present
    refine ⟨entry key value, ?_, fun text => print_entry_iff⟩
    simp [elements_alist, present]

/-- A sequence follows its key, the end of a chain follows a point, and nil does not show. -/
example : (alist [(.text "a", .tuple [.int 1, .absent]), (.absent, .cell (.int 2) (.int 3)),
    (.int 4, .list []), (.int 5, .truth false)]).print =
      .ok "((\"a\" 1 nil) (nil 2 . 3) (4) (5 . nil))" := by
  decide +kernel

end Form

end EmacsSession
