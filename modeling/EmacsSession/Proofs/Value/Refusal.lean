/-
This file shows which values printing refuses, and which of their parts the refusal is about.
-/

import Mathlib.Logic.Relation
import EmacsSession.Value.Part
import EmacsSession.Proofs.Session.EvaluateCall
import EmacsSession.Proofs.Value.Tokens

namespace EmacsSession

/-- The kinds of values that are forms. -/
def Kind.forms : List Kind :=
  [.absent, .nil, .text, .truth, .int, .float, .symbol, .keyword, .quote, .cell]

/-- What was refused, if anything was. -/
def refusal? {α : Type} : Except Kind α → Option Kind
  | .ok _ => none
  | .error kind => some kind

namespace Value

/-- The value is of none of the kinds of forms. -/
def isUnknown (value : Value) : Bool :=
  !Kind.forms.contains value.kind

/-- A value is a half of a cell, or the form of a quote. -/
def HasPart (whole part : Value) : Prop :=
  ∃ name ∈ ["car", "cdr", "sexp"], whole.part? name = some part

/-- A value is reached from another one by any number of parts. -/
def Contains (whole part : Value) : Prop :=
  Relation.ReflTransGen HasPart whole part

/-- The values that are met on a walk into the depth: each one before its parts, and what is in the
first half of a cell before what is in the rest. -/
def walk : Value → List Value
  | .cell first rest => .cell first rest :: (walk first ++ walk rest)
  | .quote form => .quote form :: walk form
  | value => [value]

/-- The first value on the walk that is no form. -/
def firstUnknown? (value : Value) : Option Value :=
  value.walk.find? isUnknown

/-- How a value is refused where it is printed, alone or for a call of a session. -/
structure IsRefused (value : Value) : Prop where
  /-- It is refused just where it contains a value that is no form. -/
  refused : (∃ kind, value.print = .error kind) ↔ ∃ part, value.Contains part ∧ part.isUnknown
  /-- The refusal is about the first of them. -/
  first : ∀ kind, value.print = .error kind ↔
    ∃ part, value.firstUnknown? = some part ∧ part.kind = kind
  /-- The message names the kind of that one. -/
  message : ∀ part, value.firstUnknown? = some part → ∀ kind, value.print = .error kind →
    (Fault.unprintable kind).message = "Unknown type of S-expression: " ++ part.kind.label
  /-- A call that evaluates the value while the daemon runs ends with the refusal, and does nothing
  else. -/
  call : ∀ (session : Session) (id : TaskId) (input : Value) (move : Move) (kind : Kind),
    session.handle.status = .running → session.HearsEvaluation id value input move →
      value.print = .error kind →
        (session.move move).ending? id = some (.failed (.unprintable kind)) ∧
          (session.move move).world = session.world ∧
          (session.move move).deeds = session.deeds ∧
          (session.move move).handle = session.handle

section Walking

variable {whole value part first rest form : Value}

theorem hasPart_quote : (quote form).HasPart part ↔ part = form := by
  simp [HasPart, part?, eq_comm]

theorem hasPart_cell : (cell first rest).HasPart part ↔ part = first ∨ part = rest := by
  simp [HasPart, part?, eq_comm]

theorem not_hasPart_of_isLeaf (leaf : value.isLeaf = true) : ¬ value.HasPart part := by
  cases value <;> simp_all [isLeaf, HasPart, part?]

theorem walk_of_isLeaf (leaf : value.isLeaf = true) : value.walk = [value] := by
  cases value <;> simp_all [isLeaf, walk]

theorem contains_iff (whole part : Value) :
    whole.Contains part ↔ part = whole ∨ ∃ next, whole.HasPart next ∧ next.Contains part := by
  rw [eq_comm]
  exact Relation.ReflTransGen.cases_head_iff

/-- The walk meets the values that are contained, and no others. -/
theorem mem_walk_iff : part ∈ whole.walk ↔ whole.Contains part := by
  induction whole using formInduction with
  | leaf value leaf =>
      rw [walk_of_isLeaf leaf, List.mem_singleton, contains_iff value]
      simp [not_hasPart_of_isLeaf leaf]
  | quote form inside =>
      rw [walk, List.mem_cons, inside, contains_iff (quote form)]
      simp [hasPart_quote]
  | cell first rest atFirst atRest =>
      rw [walk, List.mem_cons, List.mem_append, atFirst, atRest,
        contains_iff (cell first rest)]
      simp [hasPart_cell, or_and_right, exists_or]

theorem firstUnknown?_quote : (quote form).firstUnknown? = form.firstUnknown? := by
  have known : (quote form).isUnknown = false := rfl
  simp [firstUnknown?, walk, known]

/-- What is in the first half of a cell comes before what is in the rest. -/
theorem firstUnknown?_cell :
    (cell first rest).firstUnknown? = first.firstUnknown?.or rest.firstUnknown? := by
  have known : (cell first rest).isUnknown = false := rfl
  simp [firstUnknown?, walk, known, List.find?_append]

theorem firstUnknown?_isSome :
    value.firstUnknown?.isSome ↔ ∃ part, value.Contains part ∧ part.isUnknown := by
  simp [firstUnknown?, List.find?_isSome, mem_walk_iff]

end Walking

section Refusing

variable {α β : Type} {value : Value}

theorem refusal?_eq_some {result : Except Kind α} {kind : Kind} :
    refusal? result = some kind ↔ result = .error kind := by
  cases result <;> simp [refusal?]

theorem refusal?_map (result : Except Kind α) (change : α → β) :
    refusal? (result.map change) = refusal? result := by
  cases result <;> rfl

theorem refusal?_bind_ok (result : Except Kind α) (finish : α → β) :
    refusal? (result >>= fun value => .ok (finish value)) = refusal? result := by
  cases result <;> rfl

/-- Of two parts that are printed in turn the first one is refused first. -/
theorem refusal?_bind_bind {γ : Type} (result : Except Kind α) (other : Except Kind β)
    (finish : α → β → γ) :
    refusal? (result >>= fun value => other >>= fun next => .ok (finish value next)) =
      (refusal? result).or (refusal? other) := by
  cases result <;> cases other <;> rfl

theorem refusal?_printLeaf (leaf : value.isLeaf = true) :
    refusal? value.printLeaf = value.firstUnknown?.map kind := by
  rw [firstUnknown?, walk_of_isLeaf leaf]
  cases value <;> first | rfl | cases leaf

theorem firstUnknown?_of_isNil (isNil : value.isNil = true) : value.firstUnknown? = none := by
  cases value <;> first | rfl | cases isNil

/-- Printing refuses the first value that is no form, whether the value is printed alone or behind
the first element of a list. -/
theorem refusal?_print (value : Value) :
    refusal? value.print = value.firstUnknown?.map kind ∧
      refusal? value.printRest = value.firstUnknown?.map kind := by
  induction value using formInduction with
  | leaf value leaf =>
      rw [print_of_isLeaf leaf, printRest_of_isLeaf leaf]
      refine ⟨refusal?_printLeaf leaf, ?_⟩
      split
      next isNil =>
        rw [firstUnknown?_of_isNil isNil]
        rfl
      next => rw [refusal?_map, refusal?_printLeaf leaf]
  | quote form inside =>
      rw [firstUnknown?_quote, print, printRest]
      exact ⟨(refusal?_bind_ok _ _).trans inside.1, (refusal?_bind_ok _ _).trans inside.1⟩
  | cell first rest atFirst atRest =>
      rw [firstUnknown?_cell, Option.map_or, ← atFirst.1, ← atRest.2, print, printRest]
      exact ⟨refusal?_bind_bind _ _ _, refusal?_bind_bind _ _ _⟩

theorem print_eq_error_iff {kind : Kind} :
    value.print = .error kind ↔ ∃ part, value.firstUnknown? = some part ∧ part.kind = kind := by
  rw [← refusal?_eq_some, (refusal?_print value).1, Option.map_eq_some_iff]

end Refusing

end Value

/-- A call is refused before anything is done for it. -/
theorem Session.refused_of_move {session : Session} {id : TaskId} {form input : Value} {move : Move}
    {kind : Kind} (running : session.handle.status = .running)
    (hears : session.HearsEvaluation id form input move) (refused : form.print = .error kind) :
    ∃ ready, session.move move =
      { session.finish id (.failed (.unprintable kind)) with ready := ready } := by
  obtain ⟨asks, wanted, moves⟩ := hears
  obtain ⟨ready, same⟩ := turn_eq moves asks wanted
  let queue := { session with ready := session.ready.erase id }
  have ends : queue.proceed id (.evaluate form input) =
      queue.finish id (.failed (.unprintable kind)) := by
    have runs : (queue.handle.status != .running) = false := by simp [queue, running]
    simp only [proceed, runEvaluate, runs, refused]
    rfl
  exact ⟨ready, by rw [same, ends]; rfl⟩

namespace Value

/-- Printing refuses a value just where it contains one that is no form, is about the first of them,
and stops a call before anything is spawned. -/
theorem print_isRefused (value : Value) : value.IsRefused where
  refused := by
    rw [← firstUnknown?_isSome, Option.isSome_iff_exists]
    constructor
    · rintro ⟨kind, refused⟩
      obtain ⟨part, found, -⟩ := print_eq_error_iff.mp refused
      exact ⟨part, found⟩
    · rintro ⟨part, found⟩
      exact ⟨part.kind, print_eq_error_iff.mpr ⟨part, found, rfl⟩⟩
  first kind := print_eq_error_iff
  message part found kind refused := by
    obtain ⟨other, same, rfl⟩ := print_eq_error_iff.mp refused
    cases found.symm.trans same
    rfl
  call session id input move kind running hears refused := by
    obtain ⟨ready, same⟩ := Session.refused_of_move running hears refused
    rw [same]
    refine ⟨?_, rfl, rfl, rfl⟩
    apply Session.ending?_eq_some.mpr
    exact Session.stage?_moveTo_self (Session.lt_of_stage? hears.asks)

/-- The refusal is about the table in the quote, not about the thing at the end of the chain. -/
example : (cell (.int 1) (.cell (.quote (.table [])) (.foreign "set" 0))).print =
    .error .table := rfl

end Value

end EmacsSession
