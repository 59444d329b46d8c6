/-
This file shows what a session has on record, and that most of what its tasks do leaves no trace
there.
-/

import EmacsSession.Proofs.Session.Move

namespace EmacsSession

/-- What never changes about a process. -/
structure Badge where
  pid : Pid
  spawner : TaskId
  role : Role
  arguments : List String
  deriving DecidableEq

/-- The badge of a process. -/
def Process.badge (process : Process) : Badge :=
  ⟨process.pid, process.spawner, process.role, process.arguments⟩

/-- The output of a process. A process that is not known has written nothing. -/
def World.output (world : World) (pid : Pid) : Stream :=
  match world.process? pid with
  | some process => process.output
  | none => {}

/-- A message, a change of the state, or a signal: what is done time and again. -/
def Deed.isRoutine : Deed → Bool
  | .logged _ _ | .became _ | .terminated _ | .killed _ => true
  | _ => false

/-- The init directory, the tree in which it is made, the processes in the order in which they were
spawned, what they wrote to their output, and the deeds that are no routine, last one first. -/
structure Record where
  directory : Option Path
  tree : Tree
  badges : List Badge
  output : Pid → Stream
  deeds : List Deed

namespace Session

/-- What a session has on record. -/
def record (session : Session) : Record where
  directory := session.handle.initDirectory
  tree := session.world.disk.tree
  badges := session.world.processes.map Process.badge
  output := session.world.output
  deeds := session.deeds.filter fun deed => !deed.isRoutine

/-- Deeds of a kind that is no routine are all on record. -/
theorem filter_deeds (session : Session) {kind : Deed → Bool}
    (lasting : ∀ deed, kind deed = true → deed.isRoutine = false) :
    session.deeds.filter kind = session.record.deeds.filter kind := by
  rw [record, List.filter_filter]
  refine List.filter_congr fun deed _ => ?_
  cases chosen : kind deed with
  | false => rfl
  | true => rw [lasting deed chosen, Bool.not_false, Bool.and_true]

section Fields

variable (session : Session) (status : Status) (process : Option Pid) (id : TaskId)
  (stage : Stage) (change : Handle → Handle) (alter : Task → Task) (pid : Pid)

theorem record_note {deed : Deed} (routine : deed.isRoutine) :
    (session.note deed).record = session.record := by
  simp [record, note, routine]

@[simp] theorem record_logged (severity : Severity) (message : String) :
    (session.note (.logged severity message)).record = session.record :=
  record_note session rfl

@[simp] theorem record_alterTask : (session.alterTask id alter).record = session.record := rfl

@[simp] theorem record_moveTo : (session.moveTo id stage).record = session.record := rfl

@[simp] theorem record_begin : (session.begin stage).record = session.record := rfl

@[simp] theorem record_requestCancel : (session.requestCancel id).record = session.record := rfl

@[simp] theorem record_withHandle
    (kept : (change session.handle).initDirectory = session.handle.initDirectory) :
    (session.withHandle change).record = session.record := by
  simp [record, withHandle, kept]

@[simp] theorem record_withProcess : (session.withProcess process).record = session.record := rfl

@[simp] theorem record_become : (session.become status).record = session.record :=
  record_note _ rfl

theorem record_alterProcess {develop : Process → Process}
    (badge : ∀ process, (develop process).badge = process.badge)
    (output : ∀ process, (develop process).output = process.output) :
    (session.alterProcess pid develop).record = session.record := by
  have keeps (process : Process) : (develop process).pid = process.pid :=
    congrArg Badge.pid (badge process)
  have badges : (session.alterProcess pid develop).world.processes.map Process.badge =
      session.world.processes.map Process.badge := by
    rw [alterProcess, World.alter, List.map_map, World.view_comp_alter badge]
  have outputs : (session.alterProcess pid develop).world.output = session.world.output := by
    funext other
    rw [World.output, World.output, alterProcess, World.process?_alter keeps]
    cases session.world.process? other with
    | none => rfl
    | some process =>
        simp only [Option.map_some]
        split <;> simp [output]
  rw [record, badges, outputs]
  rfl

@[simp] theorem record_kill : (session.kill pid).record = session.record := by
  rw [kill, record_note _ rfl]
  refine record_alterProcess session pid (fun process => ?_) fun process => ?_ <;>
    rw [Process.kill] <;> split <;> rfl

@[simp] theorem record_terminate : (session.terminate pid).record = session.record := by
  rw [terminate, record_note _ rfl]
  refine record_alterProcess session pid (fun process => ?_) fun process => ?_ <;>
    rw [Process.terminate] <;> split <;> rfl

@[simp] theorem record_takeChunks (taken left : List (List UInt8)) :
    (session.takeChunks pid taken left).record = session.record :=
  record_alterProcess session pid (fun _ => rfl) fun _ => rfl

@[simp] theorem record_foldl_logChunk (texts : List (List Char)) :
    (texts.foldl logChunk session).record = session.record := by
  induction texts generalizing session with
  | nil => rfl
  | cons text texts inductionHypothesis =>
      rw [List.foldl_cons, inductionHypothesis, logChunk, log_eq_note, record_logged]

@[simp] theorem record_foldl_logDiagnostic (lines : List (List Char)) :
    (lines.foldl logDiagnostic session).record = session.record := by
  induction lines generalizing session with
  | nil => rfl
  | cons line lines inductionHypothesis =>
      rw [List.foldl_cons, inductionHypothesis, logDiagnostic, log_eq_note, record_logged]

@[simp] theorem record_foldl_requestCancel (tasks : List TaskId) :
    (tasks.foldl requestCancel session).record = session.record := by
  induction tasks generalizing session with
  | nil => rfl
  | cons task tasks inductionHypothesis => rw [List.foldl_cons, inductionHypothesis]; rfl

end Fields

section Turns

variable (session : Session) (id : TaskId) (pid : Pid)

@[simp] theorem record_failAttempt (fault : Fault) :
    (session.failAttempt id pid fault).record = session.record := by
  rw [failAttempt]
  split_ifs <;> simp

@[simp] theorem record_failWithCode : (session.failWithCode id pid).record = session.record := by
  rw [failWithCode]
  split <;> simp

@[simp] theorem record_becomeReady (diagnostics : Diagnostics) :
    (session.becomeReady id pid diagnostics).record = session.record := by
  simp [becomeReady]

@[simp] theorem record_readUntilReady (readiness : Readiness) :
    (session.readUntilReady id pid readiness).record = session.record := by
  rw [readUntilReady]
  dsimp only
  split
  · simp
  · simp
  · split
    · simp
    · simp
    · split <;> simp

@[simp] theorem record_attach : (session.attach id pid).record = session.record := by
  rw [attach]
  split <;> simp

@[simp] theorem record_forget (attempt : TaskId) :
    (session.forget attempt).record = session.record := by
  rw [forget]
  split <;> rfl

@[simp] theorem record_joinAttempt (attempt : TaskId) (enters : Bool) :
    (session.joinAttempt id attempt enters).record = session.record := by
  rw [joinAttempt]
  split <;> simp

@[simp] theorem record_runStart (enters : Bool) :
    (session.runStart id enters).record = session.record := by
  rw [runStart]
  split
  · rfl
  · split <;> simp

@[simp] theorem record_runRelay (diagnostics : Diagnostics) :
    (session.runRelay id pid diagnostics).record = session.record := by
  rw [runRelay]
  dsimp only
  split
  · simp
  · split <;> simp

@[simp] theorem record_runWatch : (session.runWatch id pid).record = session.record := by
  rw [runWatch]
  split
  · rfl
  · dsimp only
    split <;> simp

@[simp] theorem record_endBackground : (session.endBackground id).record = session.record := by
  rw [endBackground]
  split <;> simp

@[simp] theorem record_awaitExit : (session.awaitExit id pid).record = session.record := by
  rw [awaitExit]
  split <;> simp

@[simp] theorem record_runStop : (session.runStop id).record = session.record := by
  rw [runStop]
  split
  · rfl
  · dsimp only
    split
    · simp
    · split <;> simp

@[simp] theorem record_joinBackground (tasks : List TaskId) (ending : Ending) :
    (session.joinBackground id tasks ending).record = session.record := by
  rw [joinBackground]
  split <;> rfl

@[simp] theorem record_abandonClient (ending : Ending) :
    (session.abandonClient id pid ending).record = session.record := by
  rw [abandonClient]
  split_ifs <;> simp

@[simp] theorem record_answer (client : Process) :
    (session.answer id client).record = session.record := by
  rw [answer]
  split <;> simp

@[simp] theorem record_takeAnswer : (session.takeAnswer id pid).record = session.record := by
  rw [takeAnswer]
  split
  · rfl
  · split
    · simp
    · split <;> simp

/-- What a turn of a task puts on record: nothing, or what an attempt does that begins, or what a
caller does that evaluates a form. -/
inductive Trace (session after : Session) (id : TaskId) : Prop
  | none (same : after.record = session.record)
  | attempt (begins : session.stage? id = some .attempt) (runs : after = session.runAttempt id)
  | evaluate {form input : Value} (asks : session.stage? id = some (.evaluate form input))
      (runs : after = session.runEvaluate id form input)
  | attach {pid : Pid} {input : Value}
      (waits : session.stage? id = some (.awaitClientSpawn pid input))
      (runs : after = session.attachClient id pid input)

theorem proceed_trace {stage : Stage} (found : session.stage? id = some stage) :
    session.Trace (session.proceed id stage) id := by
  cases stage with
  | attempt => exact .attempt found rfl
  | evaluate form input => exact .evaluate found rfl
  | awaitClientSpawn pid input => exact .attach found rfl
  | awaitEnd pid fault =>
      refine .none ?_
      rw [proceed]
      split <;> rfl
  | awaitClientEnd pid ending =>
      refine .none ?_
      rw [proceed]
      split <;> rfl
  | _ => exact .none (by simp [proceed])

theorem resume_trace : session.Trace (session.resume id) id := by
  cases found : session.stage? id with
  | none => exact .none (by rw [resume_of_absent found])
  | some stage =>
      have proceeds := proceed_trace session id found
      rw [resume_of_stage found]
      split
      next =>
        cases stage with
        | attempt | awaitSpawn | awaitReady | awaitCode | awaitEnd | ended => exact proceeds
        | _ => exact .none (by simp [cancelIn])
      next => exact proceeds

/-- A turn of a task that neither begins an attempt nor evaluates leaves no trace on record. -/
theorem record_resume (silent : ∀ stage, session.stage? id = some stage →
    stage ≠ .attempt ∧ stage.isEvaluation = false) :
    (session.resume id).record = session.record := by
  cases resume_trace session id with
  | none same => exact same
  | attempt begins => exact absurd rfl (silent _ begins).1
  | evaluate asks => cases (silent _ asks).2
  | attach waits => cases (silent _ waits).2

/-- Of what happens between turns only the removal of the init directory, and what processes write,
are put on record. -/
theorem record_receive {event : Event} (happens : session.mover (.event event) = none)
    (other : event ≠ .discardDirectory) :
    (session.receive event).record.directory = session.record.directory ∧
      (session.receive event).record.tree = session.record.tree ∧
      (session.receive event).record.badges = session.record.badges ∧
      (session.receive event).record.deeds = session.record.deeds := by
  have develops {pid : Pid} {change : Process → Process}
      (badge : ∀ process, (change process).badge = process.badge) :
      (session.alterProcess pid change).record.directory = session.record.directory ∧
        (session.alterProcess pid change).record.tree = session.record.tree ∧
        (session.alterProcess pid change).record.badges = session.record.badges ∧
        (session.alterProcess pid change).record.deeds = session.record.deeds := by
    refine ⟨rfl, rfl, ?_, rfl⟩
    rw [record, alterProcess, World.alter]
    simp only [List.map_map, World.view_comp_alter badge, record]
  cases event with
  | discardDirectory => exact absurd rfl other
  | cancel id =>
      rw [receive]
      split <;> exact ⟨rfl, rfl, rfl, rfl⟩
  | tick =>
      have idle : session.ready = [] := List.head?_eq_none_iff.mp happens
      rw [receive, tick, idle]
      exact ⟨rfl, rfl, rfl, rfl⟩
  | writeErrors pid octets => exact develops fun _ => rfl
  | closeErrors pid => exact develops fun _ => rfl
  | writeOutput pid octets => exact develops fun _ => rfl
  | closeOutput pid => exact develops fun _ => rfl
  | breakErrors pid error => exact develops fun _ => rfl
  | breakOutput pid error => exact develops fun _ => rfl
  | connect pid => exact develops fun _ => rfl
  | exit pid code => exact develops fun _ => rfl
  | _ => exact ⟨rfl, rfl, rfl, rfl⟩

end Turns

end Session

end EmacsSession
