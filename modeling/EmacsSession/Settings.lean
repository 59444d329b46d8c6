/-
This file gathers the settings of a daemon from the caller and the environment.
-/

import EmacsSession.Fault
import EmacsSession.Path
import EmacsSession.Text.Blank

namespace EmacsSession

/-- The texts of the environment that configure a daemon. -/
structure Environment where
  emacs : Option String := none
  emacsclient : Option String := none
  temporaryRoot : Option String := none

/-- The facts of the running program that settings depend on. -/
structure Host where
  /-- The number of the running process. -/
  processNumber : Nat
  /-- A text that no other handle has. -/
  token : String
  /-- The temporary directory of the system. -/
  temporaryDirectory : String

/-- The words of a command line. An unset or blank text gives way to the standard one. -/
def commandWords (text : Option String) (standard : String) :
    Except Text.Words.Unfinished (List String) :=
  match text.filter fun text => !Text.allBlank text.toList with
  | some text => Text.Words.split text
  | none => Text.Words.split standard

namespace Environment

/-- The command line that starts the daemon program. -/
def emacsCommand (environment : Environment) : Except Text.Words.Unfinished (List String) :=
  commandWords environment.emacs "emacs"

/-- The command line that starts the client program. -/
def emacsclientCommand (environment : Environment) : Except Text.Words.Unfinished (List String) :=
  commandWords environment.emacsclient "emacsclient"

/-- The directory under which init directories are made. An empty text counts as unset. -/
def root (environment : Environment) (host : Host) : Path :=
  match environment.temporaryRoot.filter fun text => !text.isEmpty with
  | some text => Path.ofText text
  | none => Path.ofText host.temporaryDirectory

end Environment

/-- The text that begins the names of channels and init directories. -/
def channel : String := "elisp-bridge"

/-- The text that the daemon program shows when it accepts clients. -/
def standardMarker : String := "Starting Emacs daemon."

/-- The settings that a caller may choose. -/
structure Choices where
  name : Option String := none
  emacs : Option (List String) := none
  emacsclient : Option (List String) := none
  root : Option String := none
  readyMarker : Option String := some standardMarker

/-- The settings of a daemon. The words of both commands are texts, so a command line can always be
built from them and logged: an attempt has no way to fail between its init directory and its
spawn. -/
structure Settings where
  name : String
  emacs : List String
  emacsclient : List String
  root : Path
  /-- The text that shows that the daemon accepts clients. Without one no daemon can be started. -/
  readyMarker : Option String

namespace Settings

/-- A name that no other handle has. -/
def freshName (host : Host) : String :=
  channel ++ "-" ++ toString host.processNumber ++ "-" ++ String.ofList (host.token.toList.take 8)

/-- A choice of the caller comes first, then the environment, then the standard. An empty name
counts as none. -/
def choose (host : Host) (environment : Environment) (choices : Choices) :
    Except Text.Words.Unfinished Settings := do
  let emacs ← match choices.emacs with
    | some words => pure words
    | none => environment.emacsCommand
  let emacsclient ← match choices.emacsclient with
    | some words => pure words
    | none => environment.emacsclientCommand
  let root := match choices.root with
    | some text => Path.ofText text
    | none => environment.root host
  let name := (choices.name.filter fun name => !name.isEmpty).getD (freshName host)
  pure ⟨name, emacs, emacsclient, root, choices.readyMarker⟩

end Settings

end EmacsSession
