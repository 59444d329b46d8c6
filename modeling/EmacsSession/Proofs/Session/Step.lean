/-
This file lists all small steps that a session can make, each with what has to hold before it.
-/

import Mathlib.Logic.Relation
import EmacsSession.Proofs.Session.Fields

namespace EmacsSession

/-- The stages of a caller that was not heard yet. -/
def Stage.isCall : Stage → Bool
  | .start _ | .stop | .evaluate _ _ => true
  | _ => false

/-- The stages of a caller that evaluates. -/
def Stage.isEvaluation : Stage → Bool
  | .evaluate _ _ | .awaitClientSpawn _ _ | .awaitAnswer _ | .awaitClientEnd _ _ => true
  | _ => false

/-- The stages that simply end when the task is cancelled. -/
def Stage.isYielding : Stage → Bool
  | .start _ | .stop | .awaitTermination _ | .relay _ _ | .watch _ => true
  | _ => false

/-- An attempt waits for its process, which is the daemon's, to become ready. -/
def Stage.isWaking (pid : Pid) : Stage → Prop
  | .awaitReady other _ | .awaitCode other => other = pid
  | _ => False

theorem Stage.isWaking_awaitReady (pid : Pid) (readiness : Readiness) :
    (Stage.awaitReady pid readiness).isWaking pid := rfl

theorem Stage.isWaking_awaitCode (pid : Pid) : (Stage.awaitCode pid).isWaking pid := rfl

/-- A caller that waited for an attempt ends like it; only the text is its own. -/
inductive Ending.Passes : Ending → Ending → Prop
  | returned (text own : Option String) : Passes (.returned text) (.returned own)
  | failed (fault : Fault) : Passes (.failed fault) (.failed fault)
  | cancelled : Passes .cancelled .cancelled

namespace Session

/-- The session after something that touches neither tasks nor processes nor the state of the
daemon: logs, files, plans, and the order in which tasks are to run. -/
def Quiet (before after : Session) : Prop :=
  ∃ directory disk plans ready deeds,
    after = { before with
      handle := { before.handle with initDirectory := directory }
      world := { before.world with disk := disk, plans := plans }
      ready := ready
      deeds := deeds } ∧
    before.deeds <:+ deeds ∧ deeds.filterMap Deed.status? = before.statuses

/-- The session with one more process. -/
def enlist (session : Session) (process : Process) : Session :=
  { session with world := session.world.enlist process }

/-- The handle gives its background tasks up, and their cancellation is requested. -/
def releaseBackground (session : Session) : Session :=
  session.handle.background.foldl requestCancel
    (session.withHandle fun handle => { handle with background := [] })

/-- The daemon counts as stopped, and its process is asked to terminate if it is alive. -/
def dismiss (session : Session) (pid : Pid) (message : String) : Session :=
  let session := ((session.withProcess none).become .stopped).log .info message
  if session.hasExited pid then session else session.terminate pid

section Definitions

variable {session : Session} {pid : Pid} {message : String}

@[simp] theorem releaseBackground_handle :
    session.releaseBackground.handle = { session.handle with background := [] } :=
  foldl_requestCancel_handle _

@[simp] theorem releaseBackground_world : session.releaseBackground.world = session.world :=
  foldl_requestCancel_world _

@[simp] theorem releaseBackground_deeds : session.releaseBackground.deeds = session.deeds :=
  foldl_requestCancel_deeds _

@[simp] theorem releaseBackground_statuses :
    session.releaseBackground.statuses = session.statuses := by
  rw [statuses, releaseBackground_deeds, statuses]

@[simp] theorem releaseBackground_stage? : session.releaseBackground.stage? = session.stage? :=
  stage?_foldl_requestCancel _

theorem length_releaseBackground :
    session.releaseBackground.tasks.length = session.tasks.length :=
  length_foldl_requestCancel _

theorem stage?_release {id : TaskId} {stage later : Stage}
    (found : session.stage? id = some stage) :
    (session.releaseBackground.moveTo id later).stage? id = some later := by
  apply stage?_moveTo_self
  rw [length_releaseBackground]
  exact lt_of_stage? found

/-- The background tasks that the handle had are to be cancelled, where they have not ended. -/
theorem isFlagged_releaseBackground (id : TaskId) :
    session.releaseBackground.isFlagged id =
      (session.isFlagged id || decide (id ∈ session.handle.background) &&
        (session.stage? id).any fun stage => stage.ending?.isNone) :=
  isFlagged_foldl_requestCancel session.handle.background

@[simp] theorem dismiss_handle :
    (session.dismiss pid message).handle =
      { session.handle with process := none, status := .stopped } := by
  rw [dismiss]
  split <;> rfl

@[simp] theorem dismiss_tasks : (session.dismiss pid message).tasks = session.tasks := by
  rw [dismiss]
  split <;> rfl

@[simp] theorem dismiss_statuses :
    (session.dismiss pid message).statuses = .stopped :: session.statuses := by
  rw [dismiss]
  split <;> rfl

theorem stage?_dismiss (pid : Pid) (message : String) :
    (session.dismiss pid message).stage? = session.stage? :=
  stage?_of_tasks dismiss_tasks

theorem dismiss_world :
    (session.dismiss pid message).world =
      if session.hasExited pid then session.world
      else session.world.alter pid Process.terminate := by
  have same : (((session.withProcess none).become .stopped).log .info message).hasExited pid =
      session.hasExited pid := rfl
  rw [dismiss, same]
  split <;> rfl

section Ready

variable (session : Session) (id : TaskId) (pid : Pid) (diagnostics : Diagnostics)

@[simp] theorem becomeReady_handle :
    (session.becomeReady id pid diagnostics).handle =
      { session.handle with
        status := .running
        background := [session.tasks.length, session.tasks.length + 1] } := rfl

theorem becomeReady_tasks (present : id < session.tasks.length) :
    (session.becomeReady id pid diagnostics).tasks =
      (((session.moveTo id (.ended (.returned none))).begin (.relay pid diagnostics)).begin
        (.watch pid)).tasks := by
  have same : (session.becomeReady id pid diagnostics).tasks =
      (session.tasks ++ [Task.mk (.relay pid diagnostics) false, Task.mk (.watch pid) false]).modify
        id fun task => { task with stage := .ended (.returned none) } := by
    simp [becomeReady, moveTo]
  rw [same, modify_append_of_lt present]
  simp [moveTo]

end Ready

end Definitions

/-- The small steps of a session: those of the task that goes on, and those of nobody. -/
inductive Step : Option TaskId → Session → Session → Prop
  | quiet {mover : Option TaskId} {before after : Session} (quiet : Quiet before after) :
      Step mover before after
  | develop {mover : Option TaskId} {session : Session} (pid : Pid) (change : Process → Process)
      (continues : ∀ process : Process, process.Continues (change process)) :
      Step mover session (session.alterProcess pid change)
  | call {session : Session} (stage : Stage) (call : stage.isCall) :
      Step none session (session.begin stage)
  | cancel {session : Session} {id : TaskId} {stage : Stage}
      (found : session.stage? id = some stage) (caller : stage.isCaller) :
      Step none session (session.requestCancel id)
  | yield {session : Session} {id : TaskId} {stage : Stage}
      (found : session.stage? id = some stage) (yielding : stage.isYielding)
      (flagged : session.isFlagged id) :
      Step (some id) session (session.finish id .cancelled)
  | greet {session : Session} {id : TaskId} {enters : Bool}
      (found : session.stage? id = some (.start enters))
      (running : session.handle.status = .running) (text : Option String) :
      Step (some id) session (session.finish id (.returned text))
  | ask {session : Session} {id : TaskId} {enters : Bool}
      (found : session.stage? id = some (.start enters))
      (notRunning : session.handle.status ≠ .running) (free : session.handle.attempt = none) :
      Step (some id) session
        (((session.begin .attempt).withHandle fun handle =>
          { handle with attempt := some session.tasks.length }).moveTo id
            (.awaitAttempt session.tasks.length enters))
  | join {session : Session} {id attempt : TaskId} {enters : Bool}
      (found : session.stage? id = some (.start enters))
      (notRunning : session.handle.status ≠ .running)
      (memo : session.handle.attempt = some attempt) :
      Step (some id) session (session.moveTo id (.awaitAttempt attempt enters))
  | leave {session : Session} {id attempt : TaskId} {enters : Bool} {ending outcome : Ending}
      (found : session.stage? id = some (.awaitAttempt attempt enters))
      (ended : session.ending? attempt = some ending) (passes : ending.Passes outcome) :
      Step (some id) session ((session.forget attempt).finish id outcome)
  | abandon {session : Session} {id attempt : TaskId} {enters : Bool}
      (found : session.stage? id = some (.awaitAttempt attempt enters))
      (flagged : session.isFlagged id) :
      Step (some id) session ((session.forget attempt).finish id .cancelled)
  | enter {session : Session} {id : TaskId} (found : session.stage? id = some .attempt) :
      Step (some id) session (session.become .starting)
  | refuse {session : Session} {id : TaskId} (found : session.stage? id = some .attempt)
      (starting : session.handle.status = .starting) (fault : Fault) :
      Step (some id) session ((session.become .stopped).finish id (.failed fault))
  | collapse {session : Session} {id : TaskId} (found : session.stage? id = some .attempt)
      (starting : session.handle.status = .starting) (fault : Fault) :
      Step (some id) session (session.finish id (.failed fault))
  | spawn {session : Session} {id : TaskId} (found : session.stage? id = some .attempt)
      (starting : session.handle.status = .starting) (process : Process)
      (next : process.pid = World.firstPid + session.world.processes.length)
      (daemon : process.isDaemon) (alive : process.exitCode = none)
      (silent : process.errors = {}) :
      Step (some id) session ((session.enlist process).moveTo id (.awaitSpawn process.pid))
  | attach {session : Session} {id : TaskId} {pid : Pid}
      (found : session.stage? id = some (.awaitSpawn pid)) :
      Step (some id) session
        ((session.withProcess (some pid)).moveTo id (.awaitReady pid {}))
  | read {session : Session} {id : TaskId} {pid : Pid} {readiness later : Readiness}
      (found : session.stage? id = some (.awaitReady pid readiness))
      (taken left : List (List UInt8)) (follows : later.Follows readiness taken.flatten) :
      Step (some id) session
        ((session.takeChunks pid taken left).moveTo id (.awaitReady pid later))
  | close {session : Session} {id : TaskId} {pid : Pid} {readiness : Readiness}
      (found : session.stage? id = some (.awaitReady pid readiness)) :
      Step (some id) session (session.moveTo id (.awaitCode pid))
  | ready {session : Session} {id : TaskId} {pid : Pid} {readiness : Readiness} {marker : String}
      (found : session.stage? id = some (.awaitReady pid readiness))
      (setting : session.handle.settings.readyMarker = some marker)
      (shown : marker.toList <:+: readiness.tail) (diagnostics : Diagnostics) :
      Step (some id) session (session.becomeReady id pid diagnostics)
  | abort {session : Session} {id : TaskId} {stage : Stage} {pid : Pid}
      (found : session.stage? id = some stage) (waking : stage.isWaking pid) (fault : Fault) :
      Step (some id) session
        (((session.withProcess none).become .stopped).moveTo id (.awaitEnd pid fault))
  | fail {session : Session} {id : TaskId} {pid : Pid} {fault : Fault}
      (found : session.stage? id = some (.awaitEnd pid fault))
      (exited : session.hasExited pid) :
      Step (some id) session (session.finish id (.failed fault))
  | relay {session : Session} {id : TaskId} {pid : Pid} {diagnostics : Diagnostics}
      (found : session.stage? id = some (.relay pid diagnostics))
      (taken left : List (List UInt8)) (later : Diagnostics) :
      Step (some id) session ((session.takeChunks pid taken left).moveTo id (.relay pid later))
  | relayed {session : Session} {id : TaskId} {pid : Pid} {diagnostics : Diagnostics}
      (found : session.stage? id = some (.relay pid diagnostics))
      (finished : session.world.IsOver pid)
      {outcome : Ending} (own : outcome ≠ .cancelled) :
      Step (some id) session (session.finish id outcome)
  | notice {session : Session} {id : TaskId} {pid : Pid}
      (found : session.stage? id = some (.watch pid)) (exited : session.hasExited pid)
      (current : session.handle.process = some pid) :
      Step (some id) session
        (((session.withProcess none).become .stopped).finish id (.returned none))
  | overlook {session : Session} {id : TaskId} {pid : Pid}
      (found : session.stage? id = some (.watch pid)) (exited : session.hasExited pid)
      (other : session.handle.process ≠ some pid) :
      Step (some id) session (session.finish id (.returned none))
  | decline {session : Session} {id : TaskId} (found : session.stage? id = some .stop)
      (notRunning : session.handle.status ≠ .running) :
      Step (some id) session (session.finish id (.returned none))
  | dismiss {session : Session} {id : TaskId} {pid : Pid}
      (found : session.stage? id = some .stop) (running : session.handle.status = .running)
      (current : session.handle.process = some pid) (message : String) :
      Step (some id) session ((session.dismiss pid message).moveTo id (.awaitTermination pid))
  | release {session : Session} {id : TaskId} {pid : Pid}
      (found : session.stage? id = some (.awaitTermination pid))
      (exited : session.hasExited pid) :
      Step (some id) session
        (session.releaseBackground.moveTo id (.awaitBackground session.handle.background))
  | rest {session : Session} {id : TaskId} {tasks : List TaskId}
      (found : session.stage? id = some (.awaitBackground tasks))
      (finished : tasks.all session.hasEnded) {outcome : Ending}
      (own : outcome = .returned none ∨ outcome = .cancelled) :
      Step (some id) session (session.finish id outcome)
  | evaluate {session : Session} {id : TaskId} {stage later : Stage}
      (found : session.stage? id = some stage) (evaluation : stage.isEvaluation)
      (goes : later.isEvaluation ∨ later.ending?.isSome) (alter : Task → Task)
      (moves : ∀ task, (alter task).stage = later)
      (flags : ∀ task, (alter task).isCancelled → task.isCancelled) :
      Step (some id) session (session.alterTask id alter)
  | spawnClient {session : Session} {id : TaskId} {form input : Value}
      (found : session.stage? id = some (.evaluate form input))
      (running : session.handle.status = .running) (process : Process)
      (next : process.pid = World.firstPid + session.world.processes.length)
      (client : process.isDaemon = false) (silent : process.errors = {}) :
      Step (some id) session
        ((session.enlist process).moveTo id (.awaitClientSpawn process.pid input))

/-- Steps of one task one after the other. -/
abbrev Steps (mover : Option TaskId) : Session → Session → Prop :=
  Relation.ReflTransGen (Step mover)

end Session

end EmacsSession
