/-
This file evaluates forms by clients of the running daemon.
-/

import EmacsSession.Session.Basic
import EmacsSession.Utf8.Basic
import EmacsSession.Value.Printer

namespace EmacsSession.Session

/-- The arguments of a client process. -/
def clientArguments (settings : Settings) (code : String) : List String :=
  settings.emacsclient ++ ["--socket-name=" ++ settings.name, "--eval", code]

/-- A caller gives its client up. A client that is still alive is killed first. -/
def abandonClient (session : Session) (id : TaskId) (pid : Pid) (ending : Ending) : Session :=
  let session := if session.hasExited pid then session else session.kill pid
  if session.hasExited pid then session.finish id ending
  else session.alterTask id fun _ => { stage := .awaitClientEnd pid ending }

/-- The octets of an input: none where there is no input, and a fault where it is no text. -/
def inputOctets : Value → Except Fault (Option (List UInt8))
  | .absent => .ok none
  | .text text => .ok (some (Utf8.encode text))
  | value => .error (.noPart value.kind "encode")

/-- A caller gives its client the input. -/
def giveInput (session : Session) (id : TaskId) (pid : Pid) (input : Value) : Session :=
  match inputOctets input with
  | .ok octets => (session.note (.gaveInput pid octets)).moveTo id (.awaitAnswer pid)
  | .error fault => session.abandonClient id pid (.failed fault)

/-- A caller waits for the pipes of its client, and gives it the input then. -/
def attachClient (session : Session) (id : TaskId) (pid : Pid) (input : Value) : Session :=
  if session.world.isConnected pid then session.giveInput id pid input
  else session.moveTo id (.awaitClientSpawn pid input)

/-- A caller asks for the evaluation of a form. -/
def runEvaluate (session : Session) (id : TaskId) (form input : Value) : Session :=
  let settings := session.handle.settings
  if session.handle.status != .running then session.finish id (.failed (.notStarted settings.name))
  else
    match form.print with
    | .error kind => session.finish id (.failed (.unprintable kind))
    | .ok code =>
        let arguments := clientArguments settings code
        let session := session.log .debug ("Evaluating on " ++ settings.name ++ ": " ++ code)
        let connection := if input.kind == .absent then Connection.nothing else .pipe
        match session.spawn id .client arguments connection .pipe .pipe with
        | (.error (.system error), session) =>
            session.finish id (.failed (.spawn (.client (arguments.headD "")) error))
        | (.error fault, session) => session.finish id (.failed fault)
        | (.ok pid, session) => session.attachClient id pid input

/-- The answer of a client that has ended is what it wrote to its output. What it wrote to its
diagnostics is logged, unless it is blank. -/
def answer (session : Session) (id : TaskId) (client : Process) : Session :=
  let errors := client.errors.unread
  let session :=
    if errors.all Text.isBlankOctet then session
    else session.log .warning
      ("Emacs Lisp evaluation error: " ++ String.ofList (Text.trimEnd (Utf8.decode errors)))
  session.finish id (.returned (some (String.ofList (Utf8.decode client.output.unread))))

/-- A caller waits for the answer of its client. A refusal to read it is a fault. -/
def takeAnswer (session : Session) (id : TaskId) (pid : Pid) : Session :=
  match session.world.process? pid with
  | none => session
  | some client =>
      match client.fault? with
      | some error => session.abandonClient id pid (.failed (.system error))
      | none => if client.isComplete then session.answer id client else session

end EmacsSession.Session
