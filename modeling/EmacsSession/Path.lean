/-
This file defines paths in their normal form.
-/

namespace EmacsSession

/-- The place at which a path begins. Two leading slashes are a root of their own. -/
inductive PathRoot where
  | relative
  | single
  | double
  deriving DecidableEq, Repr

/-- A path keeps its parts without the empty ones and without lone points. -/
structure Path where
  root : PathRoot
  parts : List String
  deriving DecidableEq, Repr

namespace Path

/-- The text of a root. -/
def rootText : PathRoot → String
  | .relative => ""
  | .single => "/"
  | .double => "//"

/-- The root that the leading slashes of a text make. -/
def rootOf : List Char → PathRoot
  | '/' :: '/' :: '/' :: _ => .single
  | '/' :: '/' :: _ => .double
  | '/' :: _ => .single
  | _ => .relative

/-- The pieces between slashes. -/
def pieces : List Char → List (List Char)
  | [] => [[]]
  | character :: rest =>
      if character == '/' then [] :: pieces rest
      else match pieces rest with
        | [] => [[character]]
        | piece :: more => (character :: piece) :: more

/-- The path of a text. Parts that lead upwards are kept. -/
def ofText (text : String) : Path where
  root := rootOf text.toList
  parts :=
    ((pieces text.toList).filter fun piece => piece != [] && piece != ['.']).map String.ofList

/-- The text of a path; a path without parts is written as a point. -/
def text (path : Path) : String :=
  let text := rootText path.root ++ "/".intercalate path.parts
  if text.isEmpty then "." else text

/-- Operating systems take at most four thousand and ninety-five octets for a path. -/
def isTooLong (path : Path) : Bool :=
  4095 < path.text.utf8ByteSize

/-- The path with one more part. -/
def child (path : Path) (part : String) : Path :=
  { path with parts := path.parts ++ [part] }

end Path

end EmacsSession
