/-
This file defines the tasks of a session: what each one does next or waits for.
-/

import EmacsSession.Session.Diagnostics
import EmacsSession.Session.Process
import EmacsSession.Session.Readiness

namespace EmacsSession

/-- How a task ended. -/
inductive Ending where
  /-- The task returned, with a text if it has one to give. -/
  | returned (text : Option String)
  | failed (fault : Fault)
  | cancelled

/-- What a task does when it runs next. -/
inductive Stage where
  /-- A caller asks for the daemon to run; one that enters also wants to see it. -/
  | start (enters : Bool)
  /-- A caller waits for an attempt to start the daemon. -/
  | awaitAttempt (attempt : TaskId) (enters : Bool)
  /-- An attempt begins. -/
  | attempt
  /-- An attempt waits for the pipes of the process that it spawned. -/
  | awaitSpawn (pid : Pid)
  /-- An attempt waits for the ready marker. -/
  | awaitReady (pid : Pid) (readiness : Readiness)
  /-- An attempt waits for the exit code of a daemon that closed its diagnostics. -/
  | awaitCode (pid : Pid)
  /-- An attempt waits for the end of a daemon that it killed, and fails then. -/
  | awaitEnd (pid : Pid) (fault : Fault)
  /-- The diagnostics of a ready daemon are forwarded. -/
  | relay (pid : Pid) (diagnostics : Diagnostics)
  /-- The exit of a ready daemon is waited for. -/
  | watch (pid : Pid)
  /-- A caller asks for the daemon to stop. -/
  | stop
  /-- A caller waits for the end of a daemon that it asked to terminate. -/
  | awaitTermination (pid : Pid)
  /-- A caller waits for the end of cancelled background tasks. -/
  | awaitBackground (tasks : List TaskId)
  /-- A caller asks for the evaluation of a form. -/
  | evaluate (form input : Value)
  /-- A caller waits for the pipes of the client that it spawned, and gives the input then. -/
  | awaitClientSpawn (pid : Pid) (input : Value)
  /-- A caller waits for the answer of a client. -/
  | awaitAnswer (pid : Pid)
  /-- A caller waits for the end of a client that it killed, and ends so then. -/
  | awaitClientEnd (pid : Pid) (ending : Ending)
  | ended (ending : Ending)

/-- A task, and whether its cancellation is requested. -/
structure Task where
  stage : Stage
  isCancelled : Bool := false

namespace Stage

/-- The stages of a caller; the others belong to tasks that the session makes for itself. -/
def isCaller : Stage → Bool
  | .start _ => true
  | .awaitAttempt _ _ => true
  | .stop => true
  | .awaitTermination _ => true
  | .awaitBackground _ => true
  | .evaluate _ _ => true
  | .awaitClientSpawn _ _ => true
  | .awaitAnswer _ => true
  | .awaitClientEnd _ _ => true
  | _ => false

/-- How a task in this stage ended, if it has. -/
def ending? : Stage → Option Ending
  | .ended ending => some ending
  | _ => none

end Stage

namespace Task

/-- The task has ended. -/
def hasEnded (task : Task) : Bool :=
  task.stage.ending?.isSome

end Task

end EmacsSession
