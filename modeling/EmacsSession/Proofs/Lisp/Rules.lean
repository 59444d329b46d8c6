/-
This file states the rules for the evaluation of the forms that are built as lists.
-/

import EmacsSession.Form.Basic
import EmacsSession.Proofs.Lisp.Evaluation

namespace EmacsSession.Lisp

open Form Evaluation

variable {World : Type} {host : Host World} {levels : Nat} {form : Value}

theorem items?_list (forms : List Value) :
    items? (list forms) = some (forms.map nilIfAbsent) := by
  induction forms with
  | nil => rfl
  | cons form forms inductionHypothesis =>
      have rest : items? (nilIfAbsent (list forms)) = items? (list forms) := by
        cases forms <;> rfl
      simp [list, cons, items?, rest, inductionHypothesis]

/-- A list with a known word at its head is the operation of the word. -/
theorem shape_list {name : String} {operator : Operator} (known : operator? name = some operator)
    {sound : symbolFlaw? name = none} (arguments : List Value) :
    host.shape (list (word name sound :: arguments)) =
      host.operation operator (arguments.map nilIfAbsent) := by
  have parts := items?_list (word name sound :: arguments)
  simp only [list, cons] at parts ⊢
  simp only [Host.shape, parts]
  simp [word, nilIfAbsent, Value.isNil, known]

theorem evaluate_nilIfAbsent (form : Value) :
    host.evaluate levels (nilIfAbsent form) = host.evaluate levels form := by
  cases form with
  | absent => cases levels <;> rfl
  | _ => rfl

theorem inOrder_map_nilIfAbsent (forms : List Value) :
    inOrder (host.evaluate levels) (forms.map nilIfAbsent) =
      inOrder (host.evaluate levels) forms := by
  simp only [inOrder, List.foldlM_map, evaluate_nilIfAbsent]

theorem mapM_map_nilIfAbsent (forms : List Value) :
    (forms.map nilIfAbsent).mapM (host.evaluate levels) = forms.mapM (host.evaluate levels) := by
  rw [List.mapM_map]
  exact congrArg (List.mapM · forms) (funext evaluate_nilIfAbsent)

@[simp] theorem inOrder_singleton (evaluate : Value → Evaluation World Datum) (form : Value) :
    inOrder evaluate [form] = evaluate form := by
  simp [inOrder]

theorem evaluate_of_shape {shape : Shape} (known : host.shape form = shape) :
    host.evaluate (levels + 1) form = host.perform (host.evaluate levels) form shape := by
  rw [Host.evaluate, known]

theorem evaluate_emptyText (state : State World) :
    host.evaluate (levels + 1) (.text "") state = some (.ok (.text []), state) := by
  have empty : host.shape (.text "") = .constant (.text (host.literal [])) := rfl
  rw [evaluate_of_shape empty, host.literal_nil]
  rfl

theorem evaluate_symbol {name : Symbol} (isVariable : host.constant? name.name = none) :
    host.evaluate (levels + 1) (.symbol name) = lookup name.name := by
  have shape : host.shape (.symbol name) = .variable name.name := by
    simp [Host.shape, isVariable]
  rw [evaluate_of_shape shape]
  rfl

theorem evaluate_call {name : String} {sound : symbolFlaw? name = none} {function : Function}
    (known : operator? name = some (.function function)) (arguments : List Value) :
    host.evaluate (levels + 1) (list (word name sound :: arguments)) =
      arguments.mapM (host.evaluate levels) >>= host.apply function := by
  rw [evaluate_of_shape (shape_list known arguments)]
  simp only [Host.operation, Host.perform, mapM_map_nilIfAbsent]

theorem evaluate_guard (body : List Value) :
    host.evaluate (levels + 1) (list (word "ignore-errors" :: body)) =
      guarded (inOrder (host.evaluate levels) body) := by
  rw [evaluate_of_shape (shape_list rfl body)]
  simp only [Host.operation, Host.perform, inOrder_map_nilIfAbsent]

theorem evaluate_assignment {name : Symbol} (isVariable : host.constant? name.name = none)
    (value : Value) :
    host.evaluate (levels + 1) (assignment (.symbol name) value) =
      host.evaluate levels value >>= assign name.name := by
  have named : host.named? (nilIfAbsent (.symbol name)) = some name.name := by
    simp [nilIfAbsent, Value.isNil, Host.named?, isVariable]
  rw [assignment, evaluate_of_shape (shape_list rfl _)]
  simp only [List.map_cons, List.map_nil, Host.operation, named, Host.perform,
    evaluate_nilIfAbsent]

theorem evaluate_push {name : Symbol} (isVariable : host.constant? name.name = none)
    (item : Value) :
    host.evaluate (levels + 1) (list [word "push", item, .symbol name]) =
      host.evaluate levels item >>= fun item =>
        lookup name.name >>= fun rest => assign name.name (.cons item rest) := by
  have named : host.named? (nilIfAbsent (.symbol name)) = some name.name := by
    simp [nilIfAbsent, Value.isNil, Host.named?, isVariable]
  rw [evaluate_of_shape (shape_list rfl _)]
  simp only [List.map_cons, List.map_nil, Host.operation, named, Host.perform,
    evaluate_nilIfAbsent]

/-- A loop evaluates its test, and if that is not nil its body and then itself. -/
theorem evaluate_while (test : Value) (body : List Value) :
    host.evaluate (levels + 1) (list (word "while" :: test :: body)) =
      host.evaluate levels test >>= fun value =>
        if value = .nil then pure .nil
        else inOrder (host.evaluate levels) body >>= fun _ =>
          host.evaluate levels (list (word "while" :: test :: body)) := by
  rw [evaluate_of_shape (shape_list rfl _)]
  simp only [List.map_cons, Host.operation, Host.perform, evaluate_nilIfAbsent,
    inOrder_map_nilIfAbsent]

theorem binding?_list {name : Symbol} (isVariable : host.constant? name.name = none)
    (value : Value) :
    host.binding? (list [.symbol name, value]) = some (name.name, nilIfAbsent value) := by
  simp [Host.binding?, items?_list, nilIfAbsent, Value.isNil, Host.named?, isVariable]

theorem mapM_binding?_list {pairs : List (Symbol × Value)}
    (areVariables : ∀ pair ∈ pairs, host.constant? pair.1.name = none) :
    pairs.mapM (fun pair => host.binding? (list [.symbol pair.1, pair.2])) =
      some (pairs.map fun pair => (pair.1.name, nilIfAbsent pair.2)) := by
  induction pairs with
  | nil => rfl
  | cons pair pairs inductionHypothesis =>
      obtain ⟨isVariable, others⟩ := List.forall_mem_cons.mp areVariables
      simp [binding?_list isVariable, inductionHypothesis others]

/-- The values of a binding form are found before its variables are bound. -/
theorem evaluate_let (host : Host World) (levels : Nat) (pairs : List (Symbol × Value))
    (body : List Value) (areVariables : ∀ pair ∈ pairs, host.constant? pair.1.name = none) :
    host.evaluate (levels + 1) (list (word "let" ::
        list (pairs.map fun pair => list [.symbol pair.1, pair.2]) :: body)) =
      pairs.mapM (fun pair => host.evaluate levels pair.2) >>= fun values =>
        during ((pairs.map fun pair => pair.1.name).zip values)
          (inOrder (host.evaluate levels) body) := by
  have names := mapM_binding?_list areVariables
  rw [evaluate_of_shape (shape_list rfl _)]
  simp only [List.map_cons, Host.operation, nilIfAbsent_list, items?_list, Option.bind_some,
    List.mapM_map, List.map_map, Function.comp_def, names]
  simp only [Host.perform, List.mapM_map, List.map_map, evaluate_nilIfAbsent,
    inOrder_map_nilIfAbsent, Function.comp_def]

end EmacsSession.Lisp
