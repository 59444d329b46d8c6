/-
This file defines the names of symbols and keywords.
-/

import EmacsSession.Text.Blank

namespace EmacsSession

/-- The reasons why a text is no name. -/
inductive NameFlaw where
  /-- The text is empty. -/
  | empty
  /-- The text is a lone point, which the reader takes for the mark of a dotted list. -/
  | lonePoint
  /-- The text has a character that ends a name or has a meaning of its own. -/
  | forbidden (character : Char)
  /-- The text of a keyword begins with a colon. -/
  | leadingColon
  deriving DecidableEq, Repr

/-- The characters that end a name or have a meaning of their own for the reader. -/
def isForbiddenInName (character : Char) : Bool :=
  Text.isBlank character ||
    ['(', ')', '[', ']', '\x22', '\x27', ';', '\x60', ',', '#', '\x5c'].contains character

/-- The first flaw of a text as the name of a symbol. -/
def symbolFlaw? (text : String) : Option NameFlaw :=
  if text.toList.isEmpty then some .empty
  else if text.toList == ['.'] then some .lonePoint
  else (text.toList.find? isForbiddenInName).map .forbidden

/-- The first flaw of a text as the name of a keyword. -/
def keywordFlaw? (text : String) : Option NameFlaw :=
  match symbolFlaw? text with
  | some flaw => some flaw
  | none => if text.toList.head? == some ':' then some .leadingColon else none

/-- A symbol is printed as its bare name. -/
structure Symbol where
  name : String
  sound : symbolFlaw? name = none

/-- A keyword is printed with a colon in front of its name. -/
structure Keyword where
  name : String
  sound : keywordFlaw? name = none

/-- The symbol of a name, or the flaw of the name. -/
def Symbol.ofName (name : String) : Except NameFlaw Symbol :=
  match found : symbolFlaw? name with
  | none => .ok ⟨name, found⟩
  | some flaw => .error flaw

/-- The keyword of a name, or the flaw of the name. -/
def Keyword.ofName (name : String) : Except NameFlaw Keyword :=
  match found : keywordFlaw? name with
  | none => .ok ⟨name, found⟩
  | some flaw => .error flaw

end EmacsSession
