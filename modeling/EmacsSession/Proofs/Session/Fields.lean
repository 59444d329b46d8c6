/-
This file tells for each small change of a session which parts it changes, and which it leaves.
-/

import EmacsSession.Proofs.World
import EmacsSession.Session.Run

namespace EmacsSession

/-- The state that the daemon came into by a deed. -/
def Deed.status? : Deed → Option Status
  | .became status => some status
  | _ => none

namespace Session

/-- The states that the daemon came into, last one first. -/
def statuses (session : Session) : List Status :=
  session.deeds.filterMap Deed.status?

/-- The cancellation of the task is requested. -/
def isFlagged (session : Session) (id : TaskId) : Bool :=
  (session.tasks[id]?).any Task.isCancelled

section Fields

variable (session : Session) (deed : Deed) (status : Status) (process : Option Pid) (id : TaskId)
  (stage : Stage) (change : Handle → Handle) (alter : Task → Task) (pid : Pid)
  (develop : Process → Process)

@[simp] theorem log_eq_note (severity : Severity) (message : String) :
    session.log severity message = session.note (.logged severity message) := rfl

@[simp] theorem finish_eq_moveTo (ending : Ending) :
    session.finish id ending = session.moveTo id (.ended ending) := rfl

@[simp] theorem moveTo_handle : (session.moveTo id stage).handle = session.handle := rfl

@[simp] theorem withProcess_world : (session.withProcess process).world = session.world := rfl

@[simp] theorem moveTo_world : (session.moveTo id stage).world = session.world := rfl

@[simp] theorem note_tasks : (session.note deed).tasks = session.tasks := rfl

@[simp] theorem withHandle_tasks : (session.withHandle change).tasks = session.tasks := rfl

@[simp] theorem become_tasks : (session.become status).tasks = session.tasks := rfl

@[simp] theorem withProcess_tasks : (session.withProcess process).tasks = session.tasks := rfl

@[simp] theorem alterTask_tasks :
    (session.alterTask id alter).tasks = session.tasks.modify id alter := rfl

@[simp] theorem begin_tasks :
    (session.begin stage).tasks = session.tasks ++ [{ stage := stage }] := rfl

@[simp] theorem alterProcess_tasks :
    (session.alterProcess pid develop).tasks = session.tasks := rfl

@[simp] theorem moveTo_deeds : (session.moveTo id stage).deeds = session.deeds := rfl

@[simp] theorem moveTo_statuses : (session.moveTo id stage).statuses = session.statuses := rfl

end Fields

theorem modify_append_of_lt {Item : Type} {items more : List Item} {index : Nat}
    (inside : index < items.length) (change : Item → Item) :
    (items ++ more).modify index change = items.modify index change ++ more := by
  apply List.ext_getElem?
  intro other
  simp only [List.getElem?_modify, List.getElem?_append, List.length_modify]
  by_cases before : other < items.length
  · simp [before]
  · have different : index ≠ other := by omega
    simp [before, different]

section Stages

variable {session : Session} {id other : TaskId} {stage : Stage}

theorem lt_of_stage? (found : session.stage? id = some stage) : id < session.tasks.length := by
  obtain ⟨task, present, -⟩ := Option.map_eq_some_iff.mp found
  exact (List.getElem?_eq_some_iff.mp present).1

theorem stage?_of_tasks {after : Session} (same : after.tasks = session.tasks) :
    after.stage? = session.stage? := by
  funext id
  rw [stage?, stage?, same]

@[simp] theorem moveTo_length : (session.moveTo id stage).tasks.length = session.tasks.length := by
  simp [moveTo]

theorem stage?_moveTo_self (present : id < session.tasks.length) :
    (session.moveTo id stage).stage? id = some stage := by
  simp [stage?, moveTo, present]

theorem stage?_moveTo_of_ne (different : other ≠ id) :
    (session.moveTo id stage).stage? other = session.stage? other := by
  simp [stage?, moveTo, Ne.symm different]

theorem stage?_begin_of_lt (present : id < session.tasks.length) :
    (session.begin stage).stage? id = session.stage? id := by
  simp [stage?, List.getElem?_append_left present]

theorem stage?_begin_self : (session.begin stage).stage? session.tasks.length = some stage := by
  simp [stage?]

theorem stage?_requestCancel : (session.requestCancel id).stage? = session.stage? := by
  funext other
  simp only [stage?, requestCancel, alterTask_tasks, List.getElem?_modify]
  cases session.tasks[other]? with
  | none => rfl
  | some task =>
      simp only [Option.map_eq_map, Option.map_some]
      split
      · split <;> rfl
      · rfl

theorem stage?_foldl_requestCancel (tasks : List TaskId) :
    (tasks.foldl requestCancel session).stage? = session.stage? := by
  induction tasks generalizing session with
  | nil => rfl
  | cons task tasks inductionHypothesis =>
      rw [List.foldl_cons, inductionHypothesis, stage?_requestCancel]

theorem length_foldl_requestCancel (tasks : List TaskId) :
    (tasks.foldl requestCancel session).tasks.length = session.tasks.length := by
  induction tasks generalizing session with
  | nil => rfl
  | cons task tasks inductionHypothesis =>
      rw [List.foldl_cons, inductionHypothesis]
      simp [requestCancel]

theorem foldl_requestCancel_handle (tasks : List TaskId) :
    (tasks.foldl requestCancel session).handle = session.handle := by
  induction tasks generalizing session with
  | nil => rfl
  | cons task tasks inductionHypothesis => exact inductionHypothesis

theorem foldl_requestCancel_world (tasks : List TaskId) :
    (tasks.foldl requestCancel session).world = session.world := by
  induction tasks generalizing session with
  | nil => rfl
  | cons task tasks inductionHypothesis => exact inductionHypothesis

theorem foldl_requestCancel_deeds (tasks : List TaskId) :
    (tasks.foldl requestCancel session).deeds = session.deeds := by
  induction tasks generalizing session with
  | nil => rfl
  | cons task tasks inductionHypothesis => exact inductionHypothesis

end Stages

section Flags

variable {session : Session} {id other : TaskId} {stage : Stage}

@[simp] theorem isFlagged_moveTo : (session.moveTo id stage).isFlagged = session.isFlagged := by
  funext other
  simp only [isFlagged, moveTo, alterTask_tasks, List.getElem?_modify]
  cases session.tasks[other]? with
  | none => rfl
  | some task =>
      by_cases same : id = other <;> simp [same]

theorem isFlagged_of_tasks {after : Session} (same : after.tasks = session.tasks) :
    after.isFlagged = session.isFlagged := by
  funext id
  rw [isFlagged, isFlagged, same]

theorem isFlagged_begin (flagged : (session.begin stage).isFlagged other) :
    session.isFlagged other := by
  simp only [isFlagged, begin_tasks, List.getElem?_append] at flagged ⊢
  split at flagged
  next => exact flagged
  next =>
    cases found : [({ stage := stage } : Task)][other - session.tasks.length]? with
    | none => simp [found] at flagged
    | some task =>
        have new := List.mem_of_getElem? found
        simp_all

theorem isFlagged_begin_of_lt (present : other < session.tasks.length) :
    (session.begin stage).isFlagged other = session.isFlagged other := by
  simp [isFlagged, List.getElem?_append_left present]

theorem isFlagged_requestCancel :
    (session.requestCancel id).isFlagged other =
      (session.isFlagged other ||
        decide (other = id) && (session.stage? other).any fun stage => stage.ending?.isNone) := by
  simp only [isFlagged, requestCancel, alterTask_tasks, List.getElem?_modify, stage?]
  cases session.tasks[other]? with
  | none => simp
  | some task =>
      by_cases same : id = other
      · subst same
        cases ended : task.stage.ending? <;> simp [Task.hasEnded, ended]
      · simp [same, Ne.symm same]

/-- The cancellation of the tasks in a list is requested, of those that have not ended. -/
theorem isFlagged_foldl_requestCancel (tasks : List TaskId) :
    (tasks.foldl requestCancel session).isFlagged other =
      (session.isFlagged other ||
        decide (other ∈ tasks) &&
          (session.stage? other).any fun stage => stage.ending?.isNone) := by
  induction tasks generalizing session with
  | nil => simp
  | cons task tasks inductionHypothesis =>
      rw [List.foldl_cons, inductionHypothesis, isFlagged_requestCancel, stage?_requestCancel]
      simp only [List.mem_cons, Bool.decide_or, Bool.and_or_distrib_right, Bool.or_assoc]

end Flags

end Session

end EmacsSession
