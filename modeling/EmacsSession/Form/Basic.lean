/-
This file builds the forms that requests are made of.
-/

import EmacsSession.Fault
import EmacsSession.Value.Basic

namespace EmacsSession.Form

/-- The absent value becomes nil. -/
def nilIfAbsent (value : Value) : Value :=
  if value.isNil then .nil else value

/-- A cell of the two values. -/
def cons (first rest : Value) : Value :=
  .cell (nilIfAbsent first) (nilIfAbsent rest)

/-- The proper list of the values. -/
def list : List Value → Value
  | [] => .nil
  | item :: items => cons item (list items)

theorem nilIfAbsent_list (items : List Value) : nilIfAbsent (list items) = list items := by
  cases items <;> rfl

/-- A keyword evaluates to itself, so it is its own quotation. -/
def quote : Value → Value
  | .keyword value => .keyword value
  | form => .quote form

/-- The symbol of a name that is known to be sound. -/
def word (name : String) (sound : symbolFlaw? name = none := by decide) : Value :=
  .symbol ⟨name, sound⟩

/-- The symbol that a value names. -/
def symbol : Value → Except Fault Value
  | .text name => (Symbol.ofName name).mapError (.name .symbol name) |>.map .symbol
  | value => .error (.nameKind .symbol value.kind)

/-- The keyword that a value names. -/
def keyword : Value → Except Fault Value
  | .text name => (Keyword.ofName name).mapError (.name .keyword name) |>.map .keyword
  | value => .error (.nameKind .keyword value.kind)

/-- A symbol is taken as it is, and anything else is taken for a name. -/
def symbolOrName : Value → Except Fault Value
  | .symbol value => .ok (.symbol value)
  | value => symbol value

/-- The forms are evaluated in order. -/
def progn (forms : List Value) : Value :=
  list (word "progn" :: forms)

/-- The feature is loaded, from the file if one is given. -/
def require (feature file : Value) : Except Fault Value := do
  let feature ← symbolOrName feature
  match file with
  | .absent => .ok (list [word "require", quote feature])
  | file => .ok (list [word "require", quote feature, file])

/-- The form that sets a variable. -/
def assignment (target value : Value) : Value :=
  list [word "setq", target, value]

/-- The variable of the name is set to the value. -/
def setq (name value : Value) : Except Fault Value := do
  let target ← symbolOrName name
  .ok (assignment target value)

/-- The entry of an association list. A sequence becomes the rest of the entry. -/
def entry (key : Value) : Value → Value
  | .list items => cons key (list items)
  | .tuple items => cons key (list items)
  | value => cons key value

/-- The association list of the entries, in their order. -/
def alist (entries : List (Value × Value)) : Value :=
  list (entries.map fun pair => entry pair.1 pair.2)

/-- The association list of a value that is a table. -/
def alistOf : Value → Except Fault Value
  | .table entries => .ok (alist entries)
  | value => .error (.noPart value.kind "items")

end EmacsSession.Form
