/-
This file defines the state of a session: the handle on a daemon, its tasks, and what it did.
-/

import EmacsSession.Session.Task

namespace EmacsSession

/-- The states of a daemon. -/
inductive Status where
  | idle
  | starting
  | running
  | stopped
  deriving DecidableEq, Repr

/-- The word for a state. -/
def Status.label : Status → String
  | .idle => "idle"
  | .starting => "starting"
  | .running => "running"
  | .stopped => "stopped"

/-- The severities of log messages. -/
inductive Severity where
  | debug
  | info
  | warning
  deriving DecidableEq, Repr

/-- What a standard stream of a process is connected to. -/
inductive Connection where
  | pipe
  | nothing
  deriving DecidableEq, Repr

/-- What a session did. -/
inductive Deed where
  | logged (severity : Severity) (message : String)
  /-- The daemon came into a state. -/
  | became (status : Status)
  | madeDirectory (path : Path)
  | removedDirectory (path : Path)
  /-- A process was spawned, or not, with its standard input, output and diagnostics. -/
  | spawned (pid : Option Pid) (arguments : List String) (input output errors : Connection)
  /-- A client was given its input, or none. -/
  | gaveInput (pid : Pid) (octets : Option (List UInt8))
  | terminated (pid : Pid)
  | killed (pid : Pid)
  deriving DecidableEq, Repr

/-- The handle on a daemon. -/
structure Handle where
  settings : Settings
  status : Status := .idle
  initDirectory : Option Path := none
  /-- The process that starts or runs as the daemon. -/
  process : Option Pid := none
  /-- The attempt to start that callers wait for. -/
  attempt : Option TaskId := none
  /-- The tasks that forward diagnostics and watch for the exit. -/
  background : List TaskId := []

/-- A short description of a handle. -/
def Handle.describe (handle : Handle) : String :=
  "<EmacsDaemon " ++ handle.settings.name ++ " " ++ handle.status.label ++ ">"

/-- A session: a handle, what surrounds it, its tasks by their numbers, the tasks that are to run in
this order, and what was done so far, last deed first. -/
structure Session where
  handle : Handle
  world : World
  tasks : List Task := []
  ready : List TaskId := []
  deeds : List Deed := []

namespace Session

/-- A session that has not begun. -/
def fresh (settings : Settings) (tree : Tree) : Session where
  handle := { settings := settings }
  world := { disk := { tree := tree } }

/-- A deed is noted. -/
def note (session : Session) (deed : Deed) : Session :=
  { session with deeds := deed :: session.deeds }

/-- A message is logged. -/
def log (session : Session) (severity : Severity) (message : String) : Session :=
  session.note (.logged severity message)

/-- The stage of a task. -/
def stage? (session : Session) (id : TaskId) : Option Stage :=
  (session.tasks[id]?).map Task.stage

/-- How a task ended, if it has. -/
def ending? (session : Session) (id : TaskId) : Option Ending :=
  (session.stage? id).bind Stage.ending?

/-- The task has ended. -/
def hasEnded (session : Session) (id : TaskId) : Bool :=
  (session.ending? id).isSome

/-- A change of one task. -/
def alterTask (session : Session) (id : TaskId) (change : Task → Task) : Session :=
  { session with tasks := session.tasks.modify id change }

/-- A task goes on to a stage. -/
def moveTo (session : Session) (id : TaskId) (stage : Stage) : Session :=
  session.alterTask id fun task => { task with stage := stage }

/-- A task ends. -/
def finish (session : Session) (id : TaskId) (ending : Ending) : Session :=
  session.moveTo id (.ended ending)

/-- A new task is to run behind the others. -/
def begin (session : Session) (stage : Stage) : Session :=
  { session with
    tasks := session.tasks ++ [{ stage := stage }]
    ready := session.ready ++ [session.tasks.length] }

/-- The cancellation of a task that has not ended is requested. -/
def requestCancel (session : Session) (id : TaskId) : Session :=
  session.alterTask id fun task =>
    if task.hasEnded then task else { task with isCancelled := true }

/-- A change of the handle. -/
def withHandle (session : Session) (change : Handle → Handle) : Session :=
  { session with handle := change session.handle }

/-- The daemon comes into a state, and the deed is noted. -/
def become (session : Session) (status : Status) : Session :=
  (session.withHandle fun handle => { handle with status := status }).note (.became status)

/-- The daemon has a process, or none. -/
def withProcess (session : Session) (process : Option Pid) : Session :=
  session.withHandle fun handle => { handle with process := process }

/-- A task spawns a process, and the deed is noted. -/
def spawn (session : Session) (id : TaskId) (role : Role) (arguments : List String)
    (input output errors : Connection) : Except Fault Pid × Session :=
  let (result, world) := session.world.spawn id role arguments
  let session := { session with world := world }
  (result, session.note (.spawned result.toOption arguments input output errors))

/-- A process is killed, and the deed is noted. -/
def kill (session : Session) (pid : Pid) : Session :=
  { session with world := session.world.alter pid Process.kill }.note (.killed pid)

/-- A process is asked to terminate, and the deed is noted. -/
def terminate (session : Session) (pid : Pid) : Session :=
  { session with world := session.world.alter pid Process.terminate }.note (.terminated pid)

/-- The process has ended. -/
def hasExited (session : Session) (pid : Pid) : Bool :=
  session.world.hasExited pid

/-- The task can go on: what it waits for has happened, or it is to be cancelled where it can be. -/
def canRun (session : Session) (task : Task) : Bool :=
  match task.stage with
  | .ended _ => false
  | .start _ | .attempt | .stop | .evaluate _ _ => true
  | .awaitAttempt attempt _ => task.isCancelled || session.hasEnded attempt
  | .awaitSpawn pid => session.world.isConnected pid
  | .awaitReady pid _ => (session.world.errors pid).isReadable
  | .awaitCode pid | .awaitEnd pid _ => session.hasExited pid
  | .relay pid _ => task.isCancelled || (session.world.errors pid).isReadable
  | .watch pid | .awaitTermination pid | .awaitClientEnd pid _ =>
      task.isCancelled || session.hasExited pid
  | .awaitBackground tasks => tasks.all session.hasEnded
  | .awaitClientSpawn pid _ => task.isCancelled || session.world.isConnected pid
  | .awaitAnswer pid =>
      task.isCancelled || match session.world.process? pid with
        | some client => client.isComplete || client.fault?.isSome
        | none => false

/-- The tasks that can go on and are not to run yet are put behind the others. -/
def wake (session : Session) : Session :=
  let woken := (List.range session.tasks.length).filter fun id =>
    ((session.tasks[id]?).map session.canRun).getD false && !session.ready.contains id
  { session with ready := session.ready ++ woken }

end Session

end EmacsSession
