/-
This file shows that lists are printed by one walk along the chain of their cells, with the result
of the rules for nested lists.
-/

import EmacsSession.Form.Basic
import EmacsSession.Proofs.Value.Refusal

namespace EmacsSession.Value

/-- The words of a list: the chain of its cells is walked from one cell to the next, and the words
that were seen so far are kept. -/
def gather (words : List String) (first : Value) : Value → Except Kind (List String)
  | .cell next rest => do
      let word ← first.print
      gather (words ++ [word]) next rest
  | rest => do
      let word ← first.print
      if rest.isNil then .ok (words ++ [word])
      else
        let last ← rest.print
        .ok (words ++ [word] ++ ["."] ++ [last])

/-- The text within the brackets of a list: its words are joined once, by single spaces. -/
def inside (first rest : Value) : Except Kind String :=
  (gather [] first rest).map (" ".intercalate ·)

theorem sizeOf_pos (value : Value) : 0 < sizeOf value := by
  cases value <;> exact Nat.pos_of_ne_zero (by simp)

mutual

/-- The text of a form by the rules: a list stands in brackets, and a quoted form behind its
mark. -/
def render : Value → Except Kind String
  | .cell first rest => do
      let text ← renderList first rest
      .ok ("(" ++ text ++ ")")
  | .quote form => do
      let text ← render form
      .ok ("'" ++ text)
  | value => printLeaf value
termination_by value => sizeOf value

/-- The text within the brackets of a list by the rules: the first element comes first. Behind it
there is a space and the text of the rest where that is a cell, nothing where the rest is nil, and
a point between spaces and the rest itself where it is anything else. -/
def renderList (first : Value) : Value → Except Kind String
  | .cell next rest => do
      let head ← render first
      let tail ← renderList next rest
      .ok (head ++ " " ++ tail)
  | rest => do
      let head ← render first
      if rest.isNil then .ok head
      else
        let last ← render rest
        .ok (head ++ " . " ++ last)
termination_by rest => sizeOf first + sizeOf rest
decreasing_by
  all_goals simp [sizeOf_pos]
  all_goals omega

end

/-- The walk along a list has the result that the rules for nested lists give. -/
structure FollowsRules (first rest : Value) : Prop where
  /-- The text within the brackets is that of the rules, or both refuse the same kind. -/
  text : inside first rest = renderList first rest
  /-- The list is printed as this text in brackets. -/
  brackets : (cell first rest).print = (renderList first rest).map ("(" ++ · ++ ")")
  /-- The refused kind is that of the first part of the list that is no form. -/
  refused : ∀ kind, renderList first rest = .error kind ↔
    ∃ part, (cell first rest).firstUnknown? = some part ∧ part.kind = kind

section Walking

variable {first rest value : Value}

theorem isLeaf_cases (value : Value) :
    value.isLeaf = true ∨ (∃ form, value = .quote form) ∨
      ∃ first rest, value = .cell first rest := by
  cases value <;> simp [isLeaf]

/-- The walk puts the words of a list behind those that it has seen. -/
theorem gather_eq (words : List String) (first rest : Value) :
    gather words first rest = (do
      let word ← first.print
      let more ← rest.printRest
      .ok (words ++ word :: more)) := by
  induction rest using formInduction generalizing words first with
  | leaf rest leaf =>
      have walked : gather words first rest = (do
          let word ← first.print
          if rest.isNil then .ok (words ++ [word])
          else
            let last ← rest.print
            .ok (words ++ [word] ++ ["."] ++ [last])) := by
        cases rest <;> first | rfl | cases leaf
      rw [walked, printRest_of_isLeaf leaf, print_of_isLeaf leaf]
      split
      next => rfl
      next => cases first.print <;> cases rest.printLeaf <;> simp [bind, Except.bind, Except.map]
  | quote form inside =>
      simp only [gather, printRest, print]
      cases first.print <;> cases form.print <;> simp [bind, Except.bind, isNil]
  | cell next rest atNext atRest =>
      rw [gather, printRest]
      simp only [atRest]
      cases first.print <;> cases next.print <;> cases rest.printRest <;> simp [bind, Except.bind]

theorem inside_eq (first rest : Value) :
    inside first rest = (do
      let word ← first.print
      let more ← rest.printRest
      .ok (" ".intercalate (word :: more))) := by
  rw [inside, gather_eq]
  cases first.print <;> cases rest.printRest <;> rfl

theorem print_cell (first rest : Value) :
    (cell first rest).print = (inside first rest).map ("(" ++ · ++ ")") := by
  rw [inside_eq, print]
  cases first.print <;> cases rest.printRest <;> rfl

/-- Behind the first element of a list there is a space and the text of the rest where that is a
cell. -/
theorem inside_cell (first next rest : Value) :
    inside first (.cell next rest) = (do
      let head ← first.print
      let tail ← inside next rest
      .ok (head ++ " " ++ tail)) := by
  rw [inside_eq, inside_eq, printRest]
  cases first.print <;> cases next.print <;> cases rest.printRest <;> simp [bind, Except.bind]

theorem printRest_of_notCell (notCell : ∀ next more, rest ≠ .cell next more) :
    rest.printRest =
      if rest.isNil then .ok [] else rest.print.map fun text => [".", text] := by
  rcases isLeaf_cases rest with leaf | ⟨form, rfl⟩ | ⟨next, more, rfl⟩
  · rw [printRest_of_isLeaf leaf, print_of_isLeaf leaf]
  · rw [printRest, print]
    cases form.print <;> rfl
  · exact absurd rfl (notCell next more)

/-- There is nothing behind the first element where the rest is nil, and a point and the rest where
it is anything else. -/
theorem inside_of_notCell (notCell : ∀ next more, rest ≠ .cell next more) :
    inside first rest = (do
      let head ← first.print
      if rest.isNil then .ok head
      else
        let last ← rest.print
        .ok (head ++ " . " ++ last)) := by
  rw [inside_eq, printRest_of_notCell notCell]
  split
  next => rfl
  next =>
    have point (head last : String) :
        " ".intercalate [head, ".", last] = head ++ " . " ++ last := by
      apply String.toList_inj.mp
      simp
    cases first.print <;> cases rest.print <;> simp [bind, Except.bind, Except.map, point]

end Walking

section Rules

variable {first rest value : Value}

theorem render_of_isLeaf (leaf : value.isLeaf = true) : value.render = value.printLeaf := by
  cases value <;> simp_all [isLeaf, render]

theorem renderList_of_notCell (notCell : ∀ next more, rest ≠ .cell next more) :
    renderList first rest = (do
      let head ← first.render
      if rest.isNil then .ok head
      else
        let last ← rest.render
        .ok (head ++ " . " ++ last)) := by
  rw [renderList]
  exact notCell

/-- The inside of a list is that of the rules where its parts are printed by them. -/
theorem inside_eq_of_notCell (notCell : ∀ next more, rest ≠ .cell next more)
    (atFirst : first.print = first.render) (atRest : rest.print = rest.render) :
    inside first rest = renderList first rest := by
  rw [inside_of_notCell notCell, renderList_of_notCell notCell, atFirst, atRest]

end Rules

/-- Every value is printed by the rules, alone and as the rest of a list. -/
theorem print_eq_render (value : Value) :
    value.print = value.render ∧
      ∀ first, first.print = first.render → inside first value = renderList first value := by
  induction value using formInduction with
  | leaf value leaf =>
      have same : value.print = value.render := by
        rw [print_of_isLeaf leaf, render_of_isLeaf leaf]
      have notCell : ∀ next more, value ≠ .cell next more := by
        rintro next more rfl
        cases leaf
      exact ⟨same, fun first atFirst => inside_eq_of_notCell notCell atFirst same⟩
  | quote form atForm =>
      have same : (quote form).print = (quote form).render := by
        rw [print, render, atForm.1]
      exact ⟨same, fun first atFirst => inside_eq_of_notCell (by simp) atFirst same⟩
  | cell next rest atNext atRest =>
      have chain : inside next rest = renderList next rest := atRest.2 next atNext.1
      constructor
      · rw [print_cell, render, chain]
        cases renderList next rest <;> rfl
      · intro first atFirst
        rw [inside_cell, renderList, atFirst, chain]

theorem print_nilIfAbsent (value : Value) : (Form.nilIfAbsent value).print = value.print := by
  rw [Form.nilIfAbsent]
  split
  next isNil => cases value <;> first | rfl | cases isNil
  next => rfl

theorem printRest_list (items : List Value) :
    (Form.list items).printRest = items.mapM print := by
  induction items with
  | nil => rfl
  | cons item items inductionHypothesis =>
      rw [Form.list, Form.cons, Form.nilIfAbsent_list, printRest, print_nilIfAbsent,
        inductionHypothesis, List.mapM_cons]
      rfl

/-- A list of values is printed as their texts with single spaces between them. -/
theorem print_list (item : Value) (items : List Value) :
    (Form.list (item :: items)).print =
      ((item :: items).mapM print).map fun texts => "(" ++ " ".intercalate texts ++ ")" := by
  rw [Form.list, Form.cons, Form.nilIfAbsent_list, print, print_nilIfAbsent, printRest_list,
    List.mapM_cons]
  cases item.print <;> cases items.mapM print <;> rfl

/-- Every value is printed by the rules, every list is refused for its first part that is no form,
and a proper list is printed as the texts of its elements with single spaces between them. -/
theorem printing_followsRules :
    (∀ value : Value, value.print = value.render) ∧ (∀ first rest, FollowsRules first rest) ∧
      ∀ item items, (Form.list (item :: items)).print =
        ((item :: items).mapM print).map fun texts => "(" ++ " ".intercalate texts ++ ")" := by
  refine ⟨fun value => (print_eq_render value).1, fun first rest => ?_, print_list⟩
  have chain : inside first rest = renderList first rest :=
    (print_eq_render rest).2 first (print_eq_render first).1
  have brackets : (cell first rest).print = (renderList first rest).map ("(" ++ · ++ ")") := by
    rw [print_cell, chain]
  refine ⟨chain, brackets, fun kind => ?_⟩
  rw [← print_eq_error_iff, brackets]
  cases renderList first rest <;> simp [Except.map]

/-- A chain that ends in a false value does not end in nil, though both have one text. -/
example : (cell (.text "a") (.cell .absent (.truth false))).print = .ok "(\"a\" nil . nil)" := by
  decide +kernel

end EmacsSession.Value
