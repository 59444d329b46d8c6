/-
This file starts a daemon: the callers that ask for it, and the attempts that they wait for.
-/

import EmacsSession.Session.Basic

namespace EmacsSession.Session

/-- The beginning of the messages about the daemon. -/
def subject (session : Session) : String :=
  "Emacs daemon " ++ session.handle.settings.name

/-- An attempt fails after its process was spawned. A process that is still alive is killed
first. -/
def failAttempt (session : Session) (id : TaskId) (pid : Pid) (fault : Fault) : Session :=
  let session := (session.withProcess none).become .stopped
  let session := if session.hasExited pid then session else session.kill pid
  if session.hasExited pid then session.finish id (.failed fault)
  else session.moveTo id (.awaitEnd pid fault)

/-- The fault of a daemon that exited before it was ready. -/
def earlyExit (session : Session) (code : Int) : Fault :=
  .abnormalExit (some code)
    (some (session.subject ++ " exited with code " ++ toString code ++ " before it was ready"))

/-- An attempt fails with the exit code of the daemon as soon as there is one. -/
def failWithCode (session : Session) (id : TaskId) (pid : Pid) : Session :=
  match session.world.exitCode? pid with
  | some code => session.failAttempt id pid (session.earlyExit code)
  | none => session.moveTo id (.awaitCode pid)

/-- The daemon is ready: its diagnostics are forwarded and its exit is watched from now on. -/
def becomeReady (session : Session) (id : TaskId) (pid : Pid) (diagnostics : Diagnostics) :
    Session :=
  let session := (session.become .running).log .info
    (session.subject ++ " is ready (pid " ++ toString pid ++ ")")
  let first := session.tasks.length
  let session := (session.begin (.relay pid diagnostics)).begin (.watch pid)
  let session := session.withHandle fun handle => { handle with background := [first, first + 1] }
  session.finish id (.returned none)

/-- Chunks of the diagnostics of a process were read, and the others were left. -/
def takeChunks (session : Session) (pid : Pid) (taken left : List (List UInt8)) : Session :=
  { session with
    world := session.world.alter pid fun process =>
      { process with errors := process.errors.afterReading taken left } }

/-- The text of a chunk is logged without its trailing blanks. -/
def logChunk (session : Session) (text : List Char) : Session :=
  session.log .debug (session.subject ++ ": " ++ String.ofList (Text.trimEnd text))

/-- An attempt reads the diagnostics up to the ready marker. -/
def readUntilReady (session : Session) (id : TaskId) (pid : Pid) (readiness : Readiness) :
    Session :=
  let stream := session.world.errors pid
  match session.handle.settings.readyMarker, stream.fault with
  | none, _ => session.failAttempt id pid .noMarker
  | some _, some error => session.failAttempt id pid (.system error)
  | some marker, none =>
      let result := readiness.run marker.toList stream.coming
      let session := session.takeChunks pid (stream.coming.take result.texts.length) result.left
      let session := result.texts.foldl logChunk session
      match result.outcome with
      | .ready decoder rest => session.becomeReady id pid ⟨decoder, rest⟩
      | .emptyMarker => session.failAttempt id pid .emptyMarker
      | .waiting readiness =>
          if stream.isClosed then session.failWithCode id pid
          else session.moveTo id (.awaitReady pid readiness)

/-- The arguments of a daemon process. -/
def daemonArguments (settings : Settings) (directory : Path) : List String :=
  settings.emacs ++
    ["--fg-daemon=" ++ settings.name, "--init-directory=" ++ directory.text]

/-- An attempt waits for the pipes of its process, which is the daemon's from then on. -/
def attach (session : Session) (id : TaskId) (pid : Pid) : Session :=
  if session.world.isConnected pid then
    (session.withProcess (some pid)).readUntilReady id pid {}
  else session.moveTo id (.awaitSpawn pid)

/-- An attempt spawns a daemon process with an init directory. -/
def launch (session : Session) (id : TaskId) (directory : Path) : Session :=
  let arguments := daemonArguments session.handle.settings directory
  let session := session.log .info
    ("Starting " ++ session.subject ++ ": " ++ Text.Words.join arguments)
  match session.spawn id (.daemon directory) arguments .nothing .nothing .pipe with
  | (.error (.system error), session) =>
      (session.become .stopped).finish id
        (.failed (.spawn (.daemon (arguments.headD "")) error))
  | (.error fault, session) => session.finish id (.failed fault)
  | (.ok pid, session) => session.attach id pid

/-- An attempt begins. The init directory is made by the first attempt that can, and is kept. -/
def runAttempt (session : Session) (id : TaskId) : Session :=
  let session := session.become .starting
  match session.handle.initDirectory with
  | some directory => session.launch id directory
  | none =>
      let root := session.handle.settings.root
      let (result, disk) := session.world.disk.makeInitDirectory root
      let session := { session with world := { session.world with disk := disk } }
      match result with
      | .ok directory =>
          let session := session.withHandle fun handle =>
            { handle with initDirectory := some directory }
          (session.note (.madeDirectory directory)).launch id directory
      | .error (.system error) =>
          (session.become .stopped).finish id
            (.failed (.spawn (.initDirectory root.text) error))
      | .error fault => session.finish id (.failed fault)

/-- How a caller ends that saw an attempt return; one that enters gets to see the handle. -/
def entered (session : Session) (enters : Bool) : Ending :=
  .returned (if enters then some session.handle.describe else none)

/-- An attempt that has ended is no longer waited for. -/
def forget (session : Session) (attempt : TaskId) : Session :=
  if session.hasEnded attempt && session.handle.attempt == some attempt then
    session.withHandle fun handle => { handle with attempt := none }
  else session

/-- A caller waits for an attempt, or ends as the attempt ended. -/
def joinAttempt (session : Session) (id attempt : TaskId) (enters : Bool) : Session :=
  match session.ending? attempt with
  | none => session.moveTo id (.awaitAttempt attempt enters)
  | some (.returned _) =>
      let session := session.forget attempt
      session.finish id (session.entered enters)
  | some ending => (session.forget attempt).finish id ending

/-- A caller asks for the daemon to run. All callers wait for one attempt. -/
def runStart (session : Session) (id : TaskId) (enters : Bool) : Session :=
  if session.handle.status == .running then session.finish id (session.entered enters)
  else
    match session.handle.attempt with
    | some attempt => session.joinAttempt id attempt enters
    | none =>
        let attempt := session.tasks.length
        let session := (session.begin .attempt).withHandle fun handle =>
          { handle with attempt := some attempt }
        session.joinAttempt id attempt enters

end EmacsSession.Session
