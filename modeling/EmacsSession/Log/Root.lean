/-
This file sets up the root of the loggers.
-/

import EmacsSession.Log.Record

namespace EmacsSession.Log

/-- A level as it was set: truth values are levels too. -/
inductive RootLevel where
  | number (value : Int)
  | truth (value : Bool)
  deriving DecidableEq, Repr

/-- The number of a level. -/
def RootLevel.toInt : RootLevel → Int
  | .number value => value
  | .truth value => if value then 1 else 0

/-- A handler writes each record by its line template, or writes nothing. -/
inductive Handler where
  | lines (template : String)
  | silent
  deriving DecidableEq, Repr

/-- The root of the loggers. -/
structure Root where
  level : RootLevel := .number standardLevel
  handlers : List Handler := []
  deriving DecidableEq, Repr

/-- The level that a value sets. Names are taken as they are written. -/
def rootLevel : Value → Except Fault RootLevel
  | .int value => .ok (.number value)
  | .truth value => .ok (.truth value)
  | .text name =>
      match levelOf? name with
      | some level => .ok (.number level)
      | none => .error (.levelName name)
  | .cell first rest => refused (.cell first rest)
  | .quote form => refused (.quote form)
  | value => .error (.levelKind value.describe)
where
  /-- A form is printed before it is refused, so a part without a printed form is the fault. -/
  refused (form : Value) : Except Fault RootLevel :=
    match form.print with
    | .ok _ => .error (.levelKind form.describe)
    | .error kind => .error (.unprintable kind)

/-- The level of a root that is set up without one. A requested level of zero gives way to the
standard one. -/
def defaultLevel (requested : Option String) : Except Fault Int :=
  match requestedLevel requested with
  | .error error => .error (.numeral error)
  | .ok none => .ok standardLevel
  | .ok (some level) => .ok (if level == 0 then standardLevel else level)

/-- The level that a set-up asks for: the one that is given, or the one of the environment. -/
def setUpLevel (requested : Option String) : Value → Except Fault Value
  | .absent => (defaultLevel requested).map .int
  | level => .ok level

namespace Root

/-- The root gets a level, unless the value is none. -/
def setLevel (root : Root) (level : Value) : Except Fault Unit × Root :=
  match rootLevel level with
  | .ok level => (.ok (), { root with level := level })
  | .error fault => (.error fault, root)

/-- A handler is added behind the others. -/
def addHandler (root : Root) (handler : Handler) : Root :=
  { root with handlers := root.handlers ++ [handler] }

/-- The first handler that equals this one is taken away. -/
def removeHandler (root : Root) (handler : Handler) : Root :=
  { root with handlers := root.handlers.erase handler }

/-- The handlers that a root has are taken away, and it gets one for the template of a text. -/
def replaceHandlers (root : Root) (text : String) : Except Fault Unit × Root :=
  let root := root.handlers.foldl removeHandler root
  match lineTemplate text with
  | .ok template => (.ok (), root.addHandler (.lines template))
  | .error fault => (.error fault, root)

/-- A root is set up: the level is found and set, and the handlers are replaced then. What was done
before a fault stays done. -/
def configure (root : Root) (requested : Option String) (level : Value) :
    Except Fault Unit × Root :=
  match setUpLevel requested level with
  | .error fault => (.error fault, root)
  | .ok level =>
      match root.setLevel level with
      | (.error fault, root) => (.error fault, root)
      | (.ok (), root) => root.replaceHandlers standardTemplate

end Root

/-- Silent handlers are added to the others. -/
def Root.addSilent (root : Root) (count : Nat) : Root :=
  (List.replicate count .silent).foldl Root.addHandler root

/-- The text that a handler writes for a record. A record that cannot be written is left out. -/
def Handler.written (coloured : Bool) (record : Record) : Handler → String
  | .lines template =>
      match record.paintedLine coloured template with
      | .ok line => line ++ "\n"
      | .error _ => ""
  | .silent => ""

/-- The name of a logger; the root has a name of its own. -/
def loggerName (name : String) : String :=
  if name.isEmpty then "root" else name

/-- The record is severe enough for the root. Only positive levels are ever severe enough. -/
def Root.passes (root : Root) (level : Int) : Bool :=
  0 < level && root.level.toInt ≤ level

/-- The text that all handlers write for a record. -/
def Root.written (root : Root) (coloured : Bool) (record : Record) : String :=
  if root.passes record.level then
    String.join (root.handlers.map
      (Handler.written coloured { record with logger := loggerName record.logger }))
  else ""

end EmacsSession.Log
