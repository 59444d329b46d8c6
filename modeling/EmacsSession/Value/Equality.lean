/-
This file defines equality and digests of values.
-/

import EmacsSession.Value.Number

namespace EmacsSession

namespace Value

/-- Values that are both numbers are equal when their parts are. -/
def sameNumber (left right : Value) : Bool :=
  match left.number?, right.number? with
  | some left, some right => left.1.same right.1 && left.2.same right.2
  | _, _ => false

mutual

/-- Values are equal when they are of one kind and their parts are equal; numbers are compared by
their exact value, whatever their kind. -/
def same : Value → Value → Bool
  | .absent, .absent => true
  | .nil, .nil => true
  | .text left, .text right => left == right
  | .symbol left, .symbol right => left.name == right.name
  | .keyword left, .keyword right => left.name == right.name
  | .quote left, .quote right => same left right
  | .cell leftFirst leftRest, .cell rightFirst rightRest =>
      same leftFirst rightFirst && same leftRest rightRest
  | .list left, .list right => sameItems left right
  | .tuple left, .tuple right => sameItems left right
  | .table left, .table right => left.length == right.length && sameEntries left right
  | .octets left, .octets right => left == right
  | .object left, .object right => left == right
  | .foreign _ left, .foreign _ right => left == right
  | left, right => sameNumber left right

/-- Sequences are equal when they have equal items in the same order. -/
def sameItems : List Value → List Value → Bool
  | [], [] => true
  | left :: lefts, right :: rights => same left right && sameItems lefts rights
  | _, _ => false

/-- Each entry has an entry with an equal key and an equal value in the other table. -/
def sameEntries : List (Value × Value) → List (Value × Value) → Bool
  | [], _ => true
  | (key, value) :: entries, others =>
      (match others.find? fun other => same key other.1 with
        | some other => same value other.2
        | none => false) && sameEntries entries others

end

/-- A digest that begins with the kind. -/
def tag (number : UInt64) (digest : UInt64) : UInt64 :=
  mixHash number digest

mutual

/-- A digest that equal values share. A value that contains a list or a table has none; the error is
the kind of the first such part. -/
def digest : Value → Except Kind UInt64
  | .absent => .ok 11
  | .nil => .ok 12
  | .text value => .ok (tag 13 (hash value))
  | .symbol value => .ok (tag 14 (hash value.name))
  | .keyword value => .ok (tag 15 (hash value.name))
  | .quote form => do
      let inner ← digest form
      .ok (tag 16 inner)
  | .cell first rest => do
      let left ← digest first
      let right ← digest rest
      .ok (tag 17 (mixHash left right))
  | .list _ => .error .list
  | .tuple items => digestItems 18 items
  | .table _ => .error .table
  | .octets value => .ok (tag 19 (hash value))
  | .object number => .ok (tag 20 (hash number))
  | .foreign _ number => .ok (tag 21 (hash number))
  | value =>
      match value.number? with
      | some (real, imaginary) => .ok (mixHash real.digest imaginary.digest)
      | none => .error value.kind

/-- The digests of the items are mixed from left to right. -/
def digestItems (mixed : UInt64) : List Value → Except Kind UInt64
  | [] => .ok mixed
  | item :: items => do
      let next ← digest item
      digestItems (mixHash mixed next) items

end

end Value

end EmacsSession
