/-
This file names the log levels.
-/

import EmacsSession.Text.Blank
import EmacsSession.Text.Capital
import EmacsSession.Text.Digit

namespace EmacsSession.Log

/-- The named levels. The first name of a level is the one that it is shown by. -/
def namedLevels : List (String × Int) :=
  [("CRITICAL", 50), ("FATAL", 50), ("ERROR", 40), ("WARNING", 30), ("WARN", 30), ("INFO", 20),
    ("DEBUG", 10), ("NOTSET", 0)]

/-- The level of a name. -/
def levelOf? (name : String) : Option Int :=
  (namedLevels.find? fun entry => entry.1 == name).map Prod.snd

/-- The text that a level is shown by. -/
def levelName (level : Int) : String :=
  match namedLevels.find? fun entry => entry.2 == level with
  | some entry => entry.1
  | none => "Level " ++ toString level

/-- The level of a root unless another is set. -/
def standardLevel : Int := 30

/-- The level that a text of the environment asks for, in any case and between blanks: a number or a
known name. -/
def requestedLevel (text : Option String) : Except Text.NumeralError (Option Int) :=
  let word := Text.capitals (Text.trim (text.getD "").toList)
  if !word.isEmpty && word.all Text.isDigit then
    (Text.readNumeral word).map fun number => some number
  else .ok (levelOf? (String.ofList word))

end EmacsSession.Log
