/-
This file builds the programs that read a document from standard input, line by line.
-/

import EmacsSession.Form.Basic

namespace EmacsSession.Form

/-- The text that joins the lines: an escape that the reader turns into a line feed. -/
def lineMark : String := "\\n"

/-- The variable that collects the lines. -/
def chunks : Value := word "elisp-bridge--chunks"

/-- The variable that holds the line last read. -/
def line : Value := word "elisp-bridge--line"

/-- The next line, or nil at the end of the input. -/
def readLine : Value :=
  list [word "ignore-errors", list [word "read-string", .text ""]]

/-- Every line is put in front of the collected ones, behind the line mark. -/
def readLoop : Value :=
  list [word "while", assignment line readLine,
    list [word "push", list [word "concat", .text lineMark, line], chunks]]

/-- The collected lines in the order in which they were read, as one text. -/
def joined : Value :=
  list [word "mapconcat", quote (word "identity"), list [word "nreverse", chunks], .text ""]

/-- The variable that holds the document unless another is given. -/
def content : Value := word "content"

/-- The variable is bound to the whole standard input while the body is evaluated. -/
def bindInput (body : List Value) (target : Value := content) : Value :=
  list [word "let", list [list [chunks, .nil], list [line, .nil]], readLoop,
    list (word "let" :: list [list [target, joined]] :: body)]

/-- The mode of the document unless another is given. -/
def documentMode : Value := .text "org-mode"

/-- The document is exported by the command in a buffer of the mode, and the result is written to
standard output. -/
def exportInput (command : Value) (mode : Value := documentMode) : Except Fault Value := do
  let command ← symbolOrName command
  let mode ← symbolOrName mode
  .ok (bindInput [list [word "with-temp-buffer", list [mode], list [word "insert", content],
    list [command], list [word "princ", list [word "buffer-string"]]]])

end EmacsSession.Form
