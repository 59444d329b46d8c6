/-
This file stops a daemon: the background tasks that notice its end, and the callers that ask for it.
-/

import EmacsSession.Session.Start

namespace EmacsSession.Session

/-- A line of diagnostics is logged. -/
def logDiagnostic (session : Session) (line : List Char) : Session :=
  session.log .warning (session.subject ++ ": " ++ String.ofList line)

/-- The diagnostics that have come are forwarded. At the end of the stream what is held goes too. -/
def runRelay (session : Session) (id : TaskId) (pid : Pid) (diagnostics : Diagnostics) :
    Session :=
  let stream := session.world.errors pid
  match stream.fault with
  | some error =>
      (diagnostics.flush.1.foldl logDiagnostic session).finish id (.failed (.system error))
  | none =>
      let (messages, diagnostics) := diagnostics.run stream.coming
      let session := session.takeChunks pid stream.coming []
      let session := messages.foldl logDiagnostic session
      if stream.isClosed then
        (diagnostics.finish.foldl logDiagnostic session).finish id (.returned none)
      else session.moveTo id (.relay pid diagnostics)

/-- The exit of a process stops the daemon if the process still is the daemon's. -/
def runWatch (session : Session) (id : TaskId) (pid : Pid) : Session :=
  match session.world.exitCode? pid with
  | none => session.moveTo id (.watch pid)
  | some code =>
      let session :=
        if session.handle.process == some pid then
          ((session.withProcess none).become .stopped).log .warning
            (session.subject ++ " exited with code " ++ toString code)
        else session
      session.finish id (.returned none)

/-- The background tasks that the handle has now are cancelled, and a caller waits for their end. -/
def endBackground (session : Session) (id : TaskId) : Session :=
  let tasks := session.handle.background
  let session := session.withHandle fun handle => { handle with background := [] }
  let session := tasks.foldl requestCancel session
  if tasks.isEmpty then session.finish id (.returned none)
  else session.moveTo id (.awaitBackground tasks)

/-- A caller waits for the end of the process, and goes on to the background tasks. -/
def awaitExit (session : Session) (id : TaskId) (pid : Pid) : Session :=
  if session.hasExited pid then session.endBackground id
  else session.moveTo id (.awaitTermination pid)

/-- A caller asks for a running daemon to stop. The daemon counts as stopped at once. -/
def runStop (session : Session) (id : TaskId) : Session :=
  if session.handle.status != .running then session.finish id (.returned none)
  else
    let process := session.handle.process
    let session := ((session.withProcess none).become .stopped).log .info
      ("Stopping " ++ session.subject)
    match process with
    | none => session.endBackground id
    | some pid =>
        let session := if session.hasExited pid then session else session.terminate pid
        session.awaitExit id pid

/-- A caller ends when all the background tasks that it cancelled have ended. -/
def joinBackground (session : Session) (id : TaskId) (tasks : List TaskId) (ending : Ending) :
    Session :=
  if tasks.all session.hasEnded then session.finish id ending
  else session.moveTo id (.awaitBackground tasks)

/-- The init directory is removed, unless the daemon starts or runs. -/
def discardDirectory (session : Session) : Except Fault Unit × Session :=
  if session.handle.status == .starting || session.handle.status == .running then
    (.error (.removalRefused session.handle.settings.name), session)
  else
    match session.handle.initDirectory with
    | none => (.ok (), session)
    | some directory =>
        let (result, disk) := session.world.disk.discardDirectory directory
        let session := { session with world := { session.world with disk := disk } }
        match result with
        | .error fault => (.error fault, session)
        | .ok () =>
            let session := session.withHandle fun handle => { handle with initDirectory := none }
            (.ok (), session.note (.removedDirectory directory))

end EmacsSession.Session
