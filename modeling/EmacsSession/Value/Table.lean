/-
This file defines tables keyed by values.
-/

import EmacsSession.Value.Equality

namespace EmacsSession

/-- The entries of a table in the order in which their keys were first put. -/
abbrev Table := List (Value × Value)

namespace Table

/-- The value under an equal key. -/
def find (table : Table) (key : Value) : Option Value :=
  (table.find? fun entry => Value.same key entry.1).map Prod.snd

/-- A new key goes to the end; an equal key stays as it was first put and takes the new value. -/
def put (table : Table) (key value : Value) : Table :=
  match table with
  | [] => [(key, value)]
  | entry :: entries =>
      if Value.same key entry.1 then (entry.1, value) :: entries
      else entry :: put entries key value

/-- The table without an equal key. -/
def without (table : Table) (key : Value) : Table :=
  table.eraseP fun entry => Value.same key entry.1

/-- The value under a key. A key without a digest is refused, here and below; the error is the kind
of its first part without one. -/
def get? (table : Table) (key : Value) : Except Kind (Option Value) := do
  let _ ← key.digest
  .ok (table.find key)

/-- The table with a value put under a key. -/
def insert (table : Table) (key value : Value) : Except Kind Table := do
  let _ ← key.digest
  .ok (table.put key value)

/-- The table with a key taken out. An empty table is not searched, so it takes any key. -/
def erase (table : Table) (key : Value) : Except Kind Table :=
  if table.isEmpty then .ok table
  else do
    let _ ← key.digest
    .ok (table.without key)

end Table

end EmacsSession
