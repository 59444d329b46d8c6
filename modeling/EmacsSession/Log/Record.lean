/-
This file writes log records as lines, in a colour that tells how severe they are.
-/

import EmacsSession.Log.Colour
import EmacsSession.Log.Level
import EmacsSession.Log.LineTemplate
import EmacsSession.Template.Fill

namespace EmacsSession.Log

/-- A log record: who logs, how severe it is, and a message template with its arguments. -/
structure Record where
  logger : String
  level : Int
  template : String
  arguments : List Value := []

namespace Record

/-- The values for the message. A single table that is not empty gives them by their names. -/
def supply (record : Record) : Template.Supply :=
  match record.arguments with
  | [.table (entry :: entries)] => .ofTable (entry :: entries)
  | arguments => .items arguments

/-- The message of a record. A template without arguments is taken as it is. -/
def message (record : Record) : Except Fault String :=
  if record.arguments.isEmpty then .ok record.template
  else Template.fill record.template record.supply

/-- The arguments as one value. -/
def argument (record : Record) : Value :=
  match record.arguments with
  | [.table (entry :: entries)] => .table (entry :: entries)
  | arguments => .tuple arguments

/-- The fields of a record with its message. A record tells no place in a program. -/
def fields (record : Record) (message : String) : Table :=
  [("name", .text record.logger), ("msg", .text record.template), ("args", record.argument),
    ("levelname", .text (levelName record.level)), ("levelno", .int record.level),
    ("pathname", .text ""), ("filename", .text ""), ("module", .text ""), ("exc_info", .absent),
    ("exc_text", .absent), ("stack_info", .absent), ("lineno", .int 0), ("funcName", .absent),
    ("threadName", .text "MainThread"), ("processName", .text "MainProcess"),
    ("message", .text message)].map fun field => (.text field.1, field.2)

/-- A name that no field has is a fault of the line template. -/
def lineFault : Fault → Fault
  | .template (.noField name) => .unknownField name
  | fault => fault

/-- The line of a record without colours. -/
def line (template : String) (record : Record) : Except Fault String := do
  let message ← record.message
  (Template.fill template (.ofTable (record.fields message))).mapError lineFault

end Record

/-- The colour of a level: errors are red, warnings yellow, information green, and everything less
severe is gray. -/
def colourOf (level : Int) : Colour :=
  if 40 ≤ level then .ofNumber 31
  else if 30 ≤ level then .ofNumber 33
  else if 20 ≤ level then .ofNumber 32
  else .ofNumber 90

/-- The line of a record, in its colour if there are colours. -/
def Record.paintedLine (coloured : Bool) (template : String) (record : Record) :
    Except Fault String := do
  let line ← record.line template
  let colour := if coloured then colourOf record.level else .off
  .ok (String.ofList (colour.paint line.toList))

end EmacsSession.Log
