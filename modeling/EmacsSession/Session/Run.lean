/-
This file runs sessions: one task after the other, and whatever happens in between.
-/

import EmacsSession.Session.Evaluate
import EmacsSession.Session.Stop

namespace EmacsSession

namespace Session

/-- A task goes on from its stage. -/
def proceed (session : Session) (id : TaskId) : Stage → Session
  | .start enters => session.runStart id enters
  | .awaitAttempt attempt enters => session.joinAttempt id attempt enters
  | .attempt => session.runAttempt id
  | .awaitSpawn pid => session.attach id pid
  | .awaitReady pid readiness => session.readUntilReady id pid readiness
  | .awaitCode pid => session.failWithCode id pid
  | .awaitEnd pid fault =>
      if session.hasExited pid then session.finish id (.failed fault) else session
  | .relay pid diagnostics => session.runRelay id pid diagnostics
  | .watch pid => session.runWatch id pid
  | .stop => session.runStop id
  | .awaitTermination pid => session.awaitExit id pid
  | .awaitBackground tasks => session.joinBackground id tasks (.returned none)
  | .evaluate form input => session.runEvaluate id form input
  | .awaitClientSpawn pid input => session.attachClient id pid input
  | .awaitAnswer pid => session.takeAnswer id pid
  | .awaitClientEnd pid ending =>
      if session.hasExited pid then session.finish id ending else session
  | .ended _ => session

/-- A task is cancelled in its stage. An attempt is never cancelled. -/
def cancelIn (session : Session) (id : TaskId) (stage : Stage) : Session :=
  match stage with
  | .awaitAttempt attempt _ => (session.forget attempt).finish id .cancelled
  | .awaitBackground tasks => session.joinBackground id tasks .cancelled
  | .awaitClientSpawn pid _ | .awaitAnswer pid => session.abandonClient id pid .cancelled
  | .start _ | .stop | .awaitTermination _ | .evaluate _ _ | .awaitClientEnd _ _
  | .relay _ _ | .watch _ => session.finish id .cancelled
  | .attempt | .awaitSpawn _ | .awaitReady _ _ | .awaitCode _ | .awaitEnd _ _ | .ended _ =>
      session.proceed id stage

/-- A task goes on, or is cancelled where that was requested. -/
def resume (session : Session) (id : TaskId) : Session :=
  match session.tasks[id]? with
  | none => session
  | some task =>
      if task.isCancelled then session.cancelIn id task.stage else session.proceed id task.stage

/-- The first task that is to run goes on. -/
def tick (session : Session) : Session :=
  match session.ready with
  | [] => session
  | id :: ready => ({ session with ready := ready }.resume id).wake

end Session

/-- What can happen in a session, at any moment. -/
inductive Event where
  /-- A caller asks for the daemon to run. -/
  | start (enters : Bool)
  /-- A caller asks for the daemon to stop. -/
  | stop
  /-- A caller asks for the evaluation of a form. -/
  | evaluate (form input : Value)
  /-- A caller is cancelled. -/
  | cancel (id : TaskId)
  /-- The init directory is asked to be removed. -/
  | discardDirectory
  /-- A process writes to its diagnostics. -/
  | writeErrors (pid : Pid) (octets : List UInt8)
  /-- A process closes its diagnostics. -/
  | closeErrors (pid : Pid)
  /-- A process writes to its output. -/
  | writeOutput (pid : Pid) (octets : List UInt8)
  /-- A process closes its output. -/
  | closeOutput (pid : Pid)
  /-- Reading the diagnostics of a process is refused. -/
  | breakErrors (pid : Pid) (error : SystemError)
  /-- Reading the output of a process is refused. -/
  | breakOutput (pid : Pid) (error : SystemError)
  /-- The pipes of a spawned process are connected. -/
  | connect (pid : Pid)
  /-- A process ends by itself, or because it was killed before. -/
  | exit (pid : Pid) (code : Int)
  /-- What becomes of a coming spawn is settled. -/
  | plan (plan : Plan)
  /-- What becomes of a coming operation on an init directory is settled. -/
  | planDisk (refusal : Option SystemError)
  /-- The first task that is to run goes on. -/
  | tick

namespace Session

/-- A change of one process. -/
def alterProcess (session : Session) (pid : Pid) (change : Process → Process) : Session :=
  { session with world := session.world.alter pid change }

/-- What an event changes, before any task is woken. -/
def receive (session : Session) : Event → Session
  | .start enters => session.begin (.start enters)
  | .stop => session.begin .stop
  | .evaluate form input => session.begin (.evaluate form input)
  | .cancel id =>
      if ((session.stage? id).map Stage.isCaller).getD false then session.requestCancel id
      else session
  | .discardDirectory => session.discardDirectory.2
  | .writeErrors pid octets =>
      session.alterProcess pid fun process =>
        { process with errors := process.errors.write octets }
  | .closeErrors pid =>
      session.alterProcess pid fun process => { process with errors := process.errors.close }
  | .writeOutput pid octets =>
      session.alterProcess pid fun process =>
        { process with output := process.output.write octets }
  | .closeOutput pid =>
      session.alterProcess pid fun process => { process with output := process.output.close }
  | .breakErrors pid error =>
      session.alterProcess pid fun process =>
        { process with errors := process.errors.breakOff error }
  | .breakOutput pid error =>
      session.alterProcess pid fun process =>
        { process with output := process.output.breakOff error }
  | .connect pid =>
      session.alterProcess pid fun process => { process with isConnected := true }
  | .exit pid code => session.alterProcess pid (Process.exit code)
  | .plan plan =>
      { session with world := { session.world with plans := session.world.plans ++ [plan] } }
  | .planDisk refusal =>
      let disk := session.world.disk
      { session with
        world := { session.world with
          disk := { disk with refusals := disk.refusals ++ [refusal] } } }
  | .tick => session.tick

/-- An event, and the tasks that it wakes. -/
def apply (session : Session) (event : Event) : Session :=
  (session.receive event).wake

/-- A run: the events happen in order. -/
def run (session : Session) (events : List Event) : Session :=
  events.foldl apply session

/-- Tasks go on in order until none is to run, at most the given number of times. -/
def settleWithin : Nat → Session → Session
  | 0, session => session
  | count + 1, session =>
      if session.ready.isEmpty then session else settleWithin count session.tick

/-- The number of times that tasks can go on without anything else happening. A task makes at most
three others, and passes through at most six stages. -/
def patience (session : Session) : Nat :=
  session.ready.length + 32 * (session.tasks.length + 1)

/-- Tasks go on in order until none is to run. -/
def settle (session : Session) : Session :=
  settleWithin session.patience session

end Session

end EmacsSession
