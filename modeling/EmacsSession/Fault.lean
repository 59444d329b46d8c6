/-
This file names everything that can go wrong, with the message for each.
-/

import EmacsSession.Template.Flaw
import EmacsSession.Text.Digit
import EmacsSession.Text.Quoted
import EmacsSession.Text.Words
import EmacsSession.Value.Display

namespace EmacsSession

/-- The two sorts of names. -/
inductive NameRole where
  | symbol
  | keyword
  deriving DecidableEq, Repr

/-- The word for a sort of names in messages. -/
def NameRole.label : NameRole → String
  | .symbol => "Atom"
  | .keyword => "Keyword"

/-- A refusal of the operating system: its number, its words, and the path or program that it is
about, as it is shown. -/
structure SystemError where
  number : Nat
  words : String
  subject : Option String
  deriving DecidableEq, Repr

namespace SystemError

/-- A refusal about a path or a program is shown with it between quotation marks. -/
def about (number : Nat) (words : String) (subject : Option String) : SystemError :=
  ⟨number, words, subject.map Text.quoted⟩

/-- The message of a refusal. -/
def message (error : SystemError) : String :=
  "[Errno " ++ toString error.number ++ "] " ++ error.words ++
    match error.subject with
    | some subject => ": " ++ subject
    | none => ""

end SystemError

/-- What could not be set up when a process was to be spawned. -/
inductive SpawnTarget where
  /-- The directory under which the init directory was to be made. -/
  | initDirectory (root : String)
  /-- The program of the daemon. -/
  | daemon (program : String)
  /-- The program of the client. -/
  | client (program : String)
  deriving DecidableEq, Repr

/-- The two ways to change a part of a value. -/
inductive Change where
  /-- Something of a kind is put in its place. -/
  | assign (kind : Kind)
  | delete
  deriving DecidableEq, Repr

/-- Everything that can go wrong. -/
inductive Fault where
  /-- A name was to be built from something that is no text. -/
  | nameKind (role : NameRole) (kind : Kind)
  /-- A name was to be built from a text with a flaw. -/
  | name (role : NameRole) (name : String) (flaw : NameFlaw)
  /-- A value of this kind has no printed form. -/
  | unprintable (kind : Kind)
  /-- A value of this kind has no digest. -/
  | unhashable (kind : Kind)
  /-- A value of this kind has no such part. -/
  | noPart (kind : Kind) (part : String)
  /-- A part of a value that is fixed was to be changed. -/
  | frozen (change : Change) (part : String)
  /-- An operation that all values of a kind have was to be changed. -/
  | fixedOperation (kind : Kind) (operation : String)
  /-- A part that follows from the value was to be changed. -/
  | derivedPart (kind : Kind) (part : String)
  /-- The kind of a value was to be changed. -/
  | fixedKind (change : Change)
  /-- An evaluation was requested of a daemon that is not running. -/
  | notStarted (daemon : String)
  /-- A process was not spawned. -/
  | spawn (target : SpawnTarget) (cause : SystemError)
  /-- The daemon exited before it was ready; without a note the message tells the code only. -/
  | abnormalExit (code : Option Int) (note : Option String)
  /-- An exit was reported with this many values, of which there have to be one or two. -/
  | exitArguments (count : Nat)
  /-- The init directory of a daemon that starts or runs was to be removed. -/
  | removalRefused (daemon : String)
  /-- The operating system refused. -/
  | system (error : SystemError)
  /-- A path has a zero character. -/
  | zeroInPath
  /-- There is no ready marker to look for. -/
  | noMarker
  /-- A ready marker without characters cannot be looked for. -/
  | emptyMarker
  /-- A command line ends inside a word. -/
  | words (unfinished : Text.Words.Unfinished)
  /-- A text is no numeral. -/
  | numeral (error : Text.NumeralError)
  /-- A log level has an unknown name. -/
  | levelName (name : String)
  /-- A log level is neither a number nor a text. -/
  | levelKind (shown : String)
  /-- A template cannot be filled. -/
  | template (flaw : Template.Flaw)
  /-- A line template names no field. -/
  | fieldless (line : String)
  /-- A line template names a field that records do not have. -/
  | unknownField (name : String)

namespace Fault

/-- The message for a flawed name. -/
def nameMessage (role : NameRole) (name : String) : NameFlaw → String
  | .empty => role.label ++ " name must not be empty"
  | .lonePoint => role.label ++ " name must not be a lone '.'"
  | .forbidden character =>
      role.label ++ " name " ++ Text.quoted name ++ " contains " ++
        Text.quoted (String.singleton character)
  | .leadingColon => role.label ++ " name " ++ Text.quoted name ++ " already starts with ':'"

/-- The message for a process that was not spawned. -/
def spawnMessage (cause : SystemError) : SpawnTarget → String
  | .initDirectory root =>
      "Cannot create an init directory under " ++ Text.quoted root ++ ": " ++ cause.message
  | .daemon program => "Cannot start Emacs daemon " ++ Text.quoted program ++ ": " ++ cause.message
  | .client program => "Cannot start emacsclient " ++ Text.quoted program ++ ": " ++ cause.message

/-- The words for an exit code. -/
def codeWords (code : String) : String :=
  "Emacs daemon exited with code " ++ code

/-- The message for an exit before readiness; an empty note counts as none. -/
def exitMessage (code : Option Int) (note : Option String) : String :=
  match note.filter fun note => !note.isEmpty with
  | some note => note
  | none => codeWords ((code.map fun (number : Int) => toString number).getD "None")

/-- The text of an exit that is reported with any values; a note that does not count as true is
none. -/
def exitText (code note : Value) : Except Kind String :=
  if note.isTrue then note.display else code.display.map codeWords

/-- The code and the note among the values of a report. -/
def exitArguments? : List Value → Except Fault (Value × Value)
  | [code] => .ok (code, .absent)
  | [code, note] => .ok (code, note)
  | arguments => .error (.exitArguments arguments.length)

/-- The message for a report of an exit with too few or too many values. -/
def exitArgumentsMessage : Nat → String
  | 0 => "AbnormalExit.__init__() missing 1 required positional argument: 'returncode'"
  | count =>
      "AbnormalExit.__init__() takes from 2 to 3 positional arguments but " ++
        toString (count + 1) ++ " were given"

/-- The message for a text that is no numeral; a long text is shown in part. -/
def numeralMessage : Text.NumeralError → String
  | .invalid text =>
      "invalid literal for int() with base 10: " ++
        String.ofList ((Text.quoted text).toList.take 200)
  | .tooLong digits =>
      "Exceeds the limit (4300 digits) for integer string conversion: value has " ++
        toString digits ++ " digits; use sys.set_int_max_str_digits() to increase the limit"

/-- The message for a fault. -/
def message : Fault → String
  | .nameKind role kind => role.label ++ " name must be a str, got " ++ kind.label
  | .name role text flaw => nameMessage role text flaw
  | .unprintable kind => "Unknown type of S-expression: " ++ kind.label
  | .unhashable kind => "unhashable type: " ++ Text.quoted kind.label
  | .noPart kind part => "'" ++ kind.label ++ "' object has no attribute '" ++ part ++ "'"
  | .frozen (.assign _) part => "cannot assign to field " ++ Text.quoted part
  | .frozen .delete part => "cannot delete field " ++ Text.quoted part
  | .fixedOperation kind operation =>
      "'" ++ kind.label ++ "' object attribute '" ++ operation ++ "' is read-only"
  | .derivedPart kind part =>
      "attribute '" ++ part ++ "' of '" ++ kind.label ++ "' objects is not writable"
  | .fixedKind (.assign kind) =>
      "__class__ must be set to a class, not '" ++ kind.label ++ "' object"
  | .fixedKind .delete => "can't delete __class__ attribute"
  | .notStarted daemon => "Emacs daemon " ++ daemon ++ " is not started. Call startup() first."
  | .spawn target cause => spawnMessage cause target
  | .abnormalExit code note => exitMessage code note
  | .exitArguments count => exitArgumentsMessage count
  | .removalRefused daemon =>
      "Cannot remove the init directory of running Emacs daemon " ++ daemon
  | .system error => error.message
  | .zeroInPath => "embedded null byte"
  | .noMarker => "object of type 'NoneType' has no len()"
  | .emptyMarker => "empty separator"
  | .words .quotation => "No closing quotation"
  | .words .escape => "No escaped character"
  | .numeral error => numeralMessage error
  | .levelName text => "Unknown level: " ++ Text.quoted text
  | .levelKind shown => "Level not an integer or a valid string: " ++ shown
  | .template flaw => flaw.message
  | .fieldless line => "Invalid format '" ++ line ++ "' for '%' style"
  | .unknownField field => "Formatting field not found in record: " ++ Text.quoted field

end Fault

end EmacsSession
