/-
This file cuts a command line into words and joins words into a command line.
-/

namespace EmacsSession.Text.Words

/-- A command line that ends inside a word. -/
inductive Unfinished where
  /-- A quotation mark is left open. -/
  | quotation
  /-- The last character is an escape. -/
  | escape
  deriving DecidableEq, Repr

/-- The place of the reader in the command line. -/
inductive Place where
  /-- Between words. -/
  | between
  /-- Inside a word, outside quotation marks. -/
  | word
  /-- Inside single quotation marks. -/
  | single
  /-- Inside double quotation marks. -/
  | double
  /-- Behind an escape outside quotation marks. -/
  | escaped
  /-- Behind an escape inside double quotation marks. -/
  | escapedDouble
  deriving DecidableEq, Repr

/-- The characters that end a word. -/
def isSeparator (character : Char) : Bool :=
  character == ' ' || character == '\t' || character == '\r' || character == '\n'

/-- The place that the character opens outside quotation marks, if it opens one. -/
def opens? (character : Char) : Option Place :=
  if character == '\x27' then some .single
  else if character == '\x22' then some .double
  else if character == '\x5c' then some .escaped
  else none

/-- The words of the rest of a command line, where the reader holds the part of a word that it has
read, last character first. -/
def splitFrom : Place → List Char → List Char → Except Unfinished (List (List Char))
  | .between, _, [] => .ok []
  | .word, held, [] => .ok [held.reverse]
  | .single, _, [] => .error .quotation
  | .double, _, [] => .error .quotation
  | .escaped, _, [] => .error .escape
  | .escapedDouble, _, [] => .error .escape
  | .between, held, character :: rest =>
      if isSeparator character then splitFrom .between held rest
      else match opens? character with
        | some place => splitFrom place [] rest
        | none => splitFrom .word [character] rest
  | .word, held, character :: rest =>
      if isSeparator character then (splitFrom .between [] rest).map (held.reverse :: ·)
      else match opens? character with
        | some place => splitFrom place held rest
        | none => splitFrom .word (character :: held) rest
  | .single, held, character :: rest =>
      if character == '\x27' then splitFrom .word held rest
      else splitFrom .single (character :: held) rest
  | .double, held, character :: rest =>
      if character == '\x22' then splitFrom .word held rest
      else if character == '\x5c' then splitFrom .escapedDouble held rest
      else splitFrom .double (character :: held) rest
  | .escaped, held, character :: rest => splitFrom .word (character :: held) rest
  | .escapedDouble, held, character :: rest =>
      if character == '\x22' || character == '\x5c' then splitFrom .double (character :: held) rest
      else splitFrom .double (character :: '\x5c' :: held) rest

/-- The words of a command line; quotation marks and escapes are removed. -/
def split (line : String) : Except Unfinished (List String) :=
  (splitFrom .between [] line.toList).map (List.map String.ofList)

/-- The characters that need no quotation marks. -/
def isPlain (character : Char) : Bool :=
  character.isAlphanum || "_@%+=:,./-".toList.contains character

/-- A single quotation mark stands between double ones, behind the end of a single quotation and in
front of a new one. -/
def protectedCharacter (character : Char) : List Char :=
  if character == '\x27' then ['\x27', '\x22', '\x27', '\x22', '\x27'] else [character]

/-- The word as it stands on a command line. -/
def protectedWord (word : List Char) : List Char :=
  if !word.isEmpty && word.all isPlain then word
  else '\x27' :: word.flatMap protectedCharacter ++ ['\x27']

/-- The command line of the words. -/
def join (words : List String) : String :=
  " ".intercalate (words.map fun word => String.ofList (protectedWord word.toList))

end EmacsSession.Text.Words
