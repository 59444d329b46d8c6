/-
This file defines what the forms of a program mean to a Lisp host.
-/

import EmacsSession.Value.Basic

namespace EmacsSession.Lisp

/-- The data of a Lisp program, as far as the built-in functions look at them. -/
inductive Datum where
  | nil
  | text (contents : List Char)
  | symbol (name : String)
  | number (value : Int)
  | cons (first rest : Datum)
  /-- Anything else, told apart by its number. -/
  | other (number : Nat)
  deriving DecidableEq, Repr

namespace Datum

/-- The proper list of the items. -/
def ofItems (items : List Datum) : Datum :=
  items.foldr cons nil

/-- The items of a proper list. -/
def items? : Datum → Option (List Datum)
  | nil => some []
  | cons first rest => (items? rest).map (first :: ·)
  | _ => none

def text? : Datum → Option (List Char)
  | text contents => some contents
  | _ => none

@[simp] theorem items?_ofItems (items : List Datum) : (ofItems items).items? = some items := by
  induction items with
  | nil => rfl
  | cons first rest inductionHypothesis =>
      have inside : (rest.foldr cons nil).items? = some rest := inductionHypothesis
      simp [ofItems, items?, inside]

@[simp] theorem mapM_text?_map_text (texts : List (List Char)) :
    (texts.map text).mapM text? = some texts := by
  induction texts with
  | nil => rfl
  | cons first rest inductionHypothesis => simp [text?, inductionHypothesis]

end Datum

/-- The state of a host: the values of its variables, the lines of the standard input that are not
read yet, and whatever else there is. -/
structure State (World : Type) where
  values : String → Option Datum
  input : List (List Char)
  world : World

/-- The ways to leave an evaluation without a value. Only an error is caught by a guard. -/
inductive Escape where
  | error (fault : Datum)
  | exit (tag : Datum)
  deriving DecidableEq, Repr

/-- An evaluation ends with a value or an escape and changes the state, or it does not end in the
given number of levels. -/
def Evaluation (World Result : Type) : Type :=
  State World → Option (Except Escape Result × State World)

variable {World Result Other : Type}

namespace Evaluation

/-- The second evaluation goes on with the result of the first. An escape skips it. -/
def andThen (first : Evaluation World Result) (next : Result → Evaluation World Other) :
    Evaluation World Other := fun state =>
  match first state with
  | none => none
  | some (.error escape, after) => some (.error escape, after)
  | some (.ok result, after) => next result after

instance : Monad (Evaluation World) where
  pure result := fun state => some (.ok result, state)
  bind := andThen

theorem andThen_pure (first : Evaluation World Result) : andThen first pure = first := by
  funext state
  unfold andThen
  rcases first state with _ | ⟨_ | _, _⟩ <;> rfl

theorem andThen_assoc {Last : Type} (first : Evaluation World Result)
    (second : Result → Evaluation World Other) (third : Other → Evaluation World Last) :
    andThen (andThen first second) third =
      andThen first fun result => andThen (second result) third := by
  funext state
  unfold andThen
  rcases first state with _ | ⟨_ | _, _⟩ <;> rfl

instance : LawfulMonad (Evaluation World) :=
  .mk' _ andThen_pure (fun _ _ => rfl) andThen_assoc

theorem pure_apply (result : Result) (state : State World) :
    (pure result : Evaluation World Result) state = some (.ok result, state) := rfl

theorem bind_of_ok {first : Evaluation World Result} {next : Result → Evaluation World Other}
    {result : Result} {state after : State World} (ended : first state = some (.ok result, after)) :
    (first >>= next) state = next result after := by
  simp [bind, andThen, ended]

end Evaluation

namespace State

/-- The variable has the value. -/
def assign (state : State World) (name : String) (value : Datum) : State World :=
  { state with
    values := fun other => if other = name then some value else state.values other }

/-- The variables have the values. -/
def assignAll (state : State World) (bindings : List (String × Datum)) : State World :=
  bindings.foldl (fun state binding => state.assign binding.1 binding.2) state

/-- The variables of the names have the values again that they had in the earlier state. -/
def restore (state earlier : State World) (names : List String) : State World :=
  { state with
    values := fun other =>
      if other ∈ names then earlier.values other else state.values other }

end State

namespace Evaluation

/-- The value of a variable. It is an error to ask for one that has none. -/
def lookup (name : String) : Evaluation World Datum := fun state =>
  match state.values name with
  | some value => some (.ok value, state)
  | none => some (.error (.error (.symbol "void-variable")), state)

/-- The variable gets the value, which is the result as well. -/
def assign (name : String) (value : Datum) : Evaluation World Datum := fun state =>
  some (.ok value, state.assign name value)

/-- The variables have the values during the evaluation, and their former values behind it, however
it ends. -/
def during (bindings : List (String × Datum)) (body : Evaluation World Datum) :
    Evaluation World Datum := fun state =>
  (body (state.assignAll bindings)).map fun (result, after) =>
    (result, after.restore state (bindings.map Prod.fst))

/-- An error becomes nil. -/
def guarded (body : Evaluation World Datum) : Evaluation World Datum := fun state =>
  (body state).map fun (result, after) =>
    match result with
    | .error (.error _) => (.ok .nil, after)
    | result => (result, after)

/-- The next line of the input. It is an error to ask for one at its end. -/
def nextLine : Evaluation World Datum := fun state =>
  match state.input with
  | line :: rest => some (.ok (.text line), { state with input := rest })
  | [] => some (.error (.error (.symbol "end-of-file")), state)

end Evaluation

/-- The forms are evaluated one after the other. The result is that of the last one. -/
def inOrder (evaluate : Value → Evaluation World Datum) (forms : List Value) :
    Evaluation World Datum :=
  forms.foldlM (fun _ form => evaluate form) .nil

/-- The functions that are built in. -/
inductive Function where
  | concat
  | mapconcat
  | nreverse
  | readString

/-- The names that mean something of their own at the head of a form. -/
inductive Operator where
  | bind
  | loop
  | assign
  | push
  | guard
  | sequence
  | quote
  | function (function : Function)

/-- The operator of a name. -/
def operator? : String → Option Operator
  | "let" => some .bind
  | "while" => some .loop
  | "setq" => some .assign
  | "push" => some .push
  | "ignore-errors" => some .guard
  | "progn" => some .sequence
  | "quote" => some .quote
  | "concat" => some (.function .concat)
  | "mapconcat" => some (.function .mapconcat)
  | "nreverse" => some (.function .nreverse)
  | "read-string" => some (.function .readString)
  | _ => none

/-- What a form is to the host. -/
inductive Shape where
  | constant (value : Datum)
  | variable (name : String)
  | bind (bindings : List (String × Value)) (body : List Value)
  | loop (test : Value) (body : List Value)
  | assign (name : String) (value : Value)
  | push (item : Value) (name : String)
  | guard (body : List Value)
  | sequence (body : List Value)
  | call (function : Function) (arguments : List Value)
  /-- A form that the built-in rules say nothing of. -/
  | foreign

/-- The elements of a form that is a proper list. A quoted form at its end is read as two more
elements. -/
def items? : Value → Option (List Value)
  | .cell first rest => (items? rest).map (first :: ·)
  | .quote form => some [.symbol ⟨"quote", by decide⟩, form]
  | .absent => some []
  | .nil => some []
  | .truth false => some []
  | .symbol name => if name.name = "nil" then some [] else none
  | _ => none

/-- A host gives a meaning to everything that the built-in rules leave open. -/
structure Host (World : Type) where
  /-- The text that the reader makes of the contents of a literal. -/
  literal : List Char → List Char
  /-- The value of a name that is no variable. -/
  constant? : String → Option Datum
  /-- The evaluation of a form that the built-in rules say nothing of. The forms inside of it are
  evaluated by the host as well. -/
  foreign : (Value → Evaluation World Datum) → Value → Evaluation World Datum
  /-- The result of a built-in function for arguments that the built-in rules say nothing of. -/
  call : Function → List Datum → Evaluation World Datum
  literal_nil : literal [] = []

namespace Host

variable (host : Host World)

/-- The variable that a form names. -/
def named? : Value → Option String
  | .symbol name => if (host.constant? name.name).isNone then some name.name else none
  | _ => none

/-- The variable of a binding, and the form of its value. -/
def binding? (form : Value) : Option (String × Value) :=
  match items? form with
  | some [name, value] => (host.named? name).map (·, value)
  | _ => none

/-- What a form with an operator is. -/
def operation (operator : Operator) (arguments : List Value) : Shape :=
  match operator, arguments with
  | .bind, names :: body =>
      match (items? names).bind (·.mapM host.binding?) with
      | some bindings => .bind bindings body
      | none => .foreign
  | .loop, test :: body => .loop test body
  | .assign, [name, value] =>
      match host.named? name with
      | some name => .assign name value
      | none => .foreign
  | .push, [item, name] =>
      match host.named? name with
      | some name => .push item name
      | none => .foreign
  | .guard, body => .guard body
  | .sequence, body => .sequence body
  | .quote, [.symbol name] => .constant (if name.name = "nil" then .nil else .symbol name.name)
  | .function function, arguments => .call function arguments
  | _, _ => .foreign

/-- What a form is. -/
def shape (form : Value) : Shape :=
  match form with
  | .absent => .constant .nil
  | .nil => .constant .nil
  | .truth flag => .constant (if flag then .symbol "t" else .nil)
  | .int value => .constant (.number value)
  | .text contents => .constant (.text (host.literal contents.toList))
  | .keyword name => .constant (.symbol (":" ++ name.name))
  | .symbol name =>
      match host.constant? name.name with
      | some value => .constant value
      | none => .variable name.name
  | form =>
      match items? form with
      | some (.symbol name :: arguments) =>
          match operator? name.name with
          | some operator => host.operation operator arguments
          | none => .foreign
      | _ => .foreign

/-- The result of a built-in function. -/
def apply (function : Function) (arguments : List Datum) : Evaluation World Datum :=
  match function, arguments with
  | .concat, arguments =>
      match arguments.mapM Datum.text? with
      | some texts => pure (.text texts.flatten)
      | none => host.call .concat arguments
  | .mapconcat, [.symbol "identity", items, .text separator] =>
      match items.items?.bind (·.mapM Datum.text?) with
      | some texts => pure (.text (List.intercalate separator texts))
      | none => host.call .mapconcat [.symbol "identity", items, .text separator]
  | .nreverse, [items] =>
      match items.items? with
      | some items => pure (.ofItems items.reverse)
      | none => host.call .nreverse [items]
  | .readString, .text _ :: _ => .nextLine
  | function, arguments => host.call function arguments

/-- One level of the evaluation of a form that has the shape. The forms inside of it are left to the
given evaluation, as is the next round of a loop. -/
def perform (evaluate : Value → Evaluation World Datum) (form : Value) :
    Shape → Evaluation World Datum
  | .constant value => pure value
  | .variable name => .lookup name
  | .bind bindings body => do
      let values ← bindings.mapM fun binding => evaluate binding.2
      .during ((bindings.map Prod.fst).zip values) (inOrder evaluate body)
  | .loop test body => do
      let value ← evaluate test
      if value = .nil then pure .nil
      else do
        let _ ← inOrder evaluate body
        evaluate form
  | .assign name value => do
      let value ← evaluate value
      .assign name value
  | .push item name => do
      let item ← evaluate item
      let rest ← .lookup name
      .assign name (.cons item rest)
  | .guard body => .guarded (inOrder evaluate body)
  | .sequence body => inOrder evaluate body
  | .call function arguments => do
      let arguments ← arguments.mapM evaluate
      host.apply function arguments
  | .foreign => host.foreign evaluate form

/-- The evaluation of a form in a number of levels. -/
def evaluate : Nat → Value → Evaluation World Datum
  | 0, _ => fun _ => none
  | levels + 1, form => host.perform (evaluate levels) form (host.shape form)

end Host

end EmacsSession.Lisp
