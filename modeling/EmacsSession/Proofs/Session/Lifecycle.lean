/-
This file shows through which states a daemon goes, and what makes it leave the running state.
-/

import EmacsSession.Proofs.Session.Frame
import EmacsSession.Proofs.Session.Listening

namespace EmacsSession

/-- The changes of state that a daemon may go through. -/
inductive Status.LeadsTo : Status → Status → Prop
  | start : LeadsTo .idle .starting
  | ready : LeadsTo .starting .running
  | fail : LeadsTo .starting .stopped
  | stop : LeadsTo .running .stopped
  | restart : LeadsTo .stopped .starting

/-- The changes of state in a history, which has its last state first. Before it the daemon was
idle. -/
def Status.changes : List Status → List (Status × Status)
  | [] => []
  | status :: earlier => (earlier.head?.getD .idle, status) :: changes earlier

/-- An attempt in this stage is unfinished. -/
def Stage.isAttempt : Stage → Bool
  | .attempt | .awaitSpawn _ | .awaitReady _ _ | .awaitCode _ | .awaitEnd _ _ => true
  | _ => false

theorem Stage.isYielding_of_isAttempt {stage : Stage} (own : stage.isAttempt) :
    stage.isYielding = false := by
  cases stage <;> first | rfl | cases own

theorem Stage.isEvaluation_of_isAttempt {stage : Stage} (own : stage.isAttempt) :
    stage.isEvaluation = false := by
  cases stage <;> first | rfl | cases own

/-- The stages of a caller that asks for the daemon to stop, and of a task that watches for its
exit. -/
def Stage.isStopping : Stage → Bool
  | .stop | .watch _ => true
  | _ => false

theorem Stage.isEvaluation_of_isStopping {stage : Stage} (stopping : stage.isStopping) :
    stage.isEvaluation = false := by
  cases stage <;> first | rfl | cases stopping

namespace Session

/-- The state that was noted last. -/
def noted (session : Session) : Status :=
  session.statuses.head?.getD .idle

/-- The changes of state so far, last one first. -/
def changes (session : Session) : List (Status × Status) :=
  Status.changes session.statuses

/-- How often the daemon left the running state. -/
def halts (session : Session) : Nat :=
  session.changes.countP fun change => change.1 == .running && change.2 != .running

section History

variable {session after : Session} {phase : Phase} {mover : Option TaskId}

@[simp] theorem forget_statuses (attempt : TaskId) :
    (session.forget attempt).statuses = session.statuses := by
  rw [forget]
  split <;> rfl

/-- A change of state that a small step of a task makes. -/
structure Shift (mover : Option TaskId) (before after : Session) (status : Status) : Prop where
  statuses : after.statuses = status :: before.statuses
  now : after.handle.status = status
  allowed : before.handle.status = status ∨ before.handle.status.LeadsTo status
  cause : before.handle.status = .running → ∃ id stage,
    mover = some id ∧ before.stage? id = some stage ∧ stage.isStopping

/-- A small step leaves the state as it is, or makes one change that is allowed. -/
theorem shift_of_step (stands : session.Stands phase) (step : Step mover session after) :
    after.statuses = session.statuses ∧ after.handle.status = session.handle.status ∨
      ∃ status, Shift mover session after status := by
  cases step with
  | quiet quiet =>
      obtain ⟨_, _, _, _, _, rfl, -, same⟩ := quiet
      exact .inl ⟨same, rfl⟩
  | leave found ended passes => exact .inl (by simp)
  | abandon found flagged => exact .inl (by simp)
  | @enter _ id found =>
      have asked := stands.eq_of_stage? found rfl
      subst asked
      have notRunning : session.handle.status ≠ .running := stands.status
      refine .inr ⟨.starting, rfl, rfl, ?_, fun running => absurd running notRunning⟩
      cases now : session.handle.status with
      | idle => exact .inr .start
      | starting => exact .inl rfl
      | running => exact absurd now notRunning
      | stopped => exact .inr .restart
  | refuse found starting fault =>
      refine .inr ⟨.stopped, rfl, rfl, .inr (starting ▸ .fail), fun running => ?_⟩
      rw [starting] at running
      cases running
  | @ready _ id pid readiness marker found setting shown diagnostics =>
      have waking := stands.eq_of_stage? found rfl
      subst waking
      have starting : session.handle.status = .starting := stands.status
      refine .inr ⟨.running, rfl, rfl, .inr (starting ▸ .ready), fun running => ?_⟩
      rw [starting] at running
      cases running
  | @abort _ id stage pid found waking fault =>
      have wakes := stands.eq_of_stage? found (Stage.phase?_of_isWaking waking id)
      subst wakes
      have starting : session.handle.status = .starting := stands.status
      refine .inr ⟨.stopped, rfl, rfl, .inr (starting ▸ .fail), fun running => ?_⟩
      rw [starting] at running
      cases running
  | @notice _ id pid found exited current =>
      have runs := stands.running_of_charge current found rfl
      subst runs
      have running : session.handle.status = .running := stands.status
      exact .inr ⟨.stopped, rfl, rfl, .inr (running ▸ .stop), fun _ => ⟨id, _, rfl, found, rfl⟩⟩
  | @dismiss _ id pid found running current message =>
      refine .inr ⟨.stopped, ?_, ?_, .inr (running ▸ .stop), fun _ => ⟨id, _, rfl, found, rfl⟩⟩
      · rw [moveTo_statuses, dismiss_statuses]
      · rw [moveTo_handle, dismiss_handle]
  | release found exited => exact .inl (by simp)
  | _ => exact .inl ⟨rfl, rfl⟩

/-- No task goes on to a stage in which the daemon may be stopped: it begins there. -/
theorem stage?_of_step_stopping {id : TaskId} {stage : Stage} (step : Step mover session after)
    (stopping : stage.isStopping) (present : id < session.tasks.length)
    (here : after.stage? id = some stage) : session.stage? id = some stage := by
  rcases (arrival_of_step step here).old present with before | ⟨-, earlier, -, proceeds⟩
  · exact before
  · cases proceeds with
    | evaluate evaluation still =>
        rw [Stage.isEvaluation_of_isStopping stopping] at still
        cases still
    | _ => cases stopping

/-- The history tells the state, and all changes in it are allowed. -/
structure IsCoherent (session : Session) : Prop where
  now : session.handle.status = session.noted
  allowed : ∀ change ∈ session.changes, change.1 = change.2 ∨ change.1.LeadsTo change.2

theorem IsCoherent.step (coherent : session.IsCoherent) (stands : session.Stands phase)
    (step : Step mover session after) : after.IsCoherent := by
  rcases shift_of_step stands step with ⟨statuses, same⟩ | ⟨status, shift⟩
  · refine ⟨?_, ?_⟩
    · rw [same, coherent.now, noted, noted, statuses]
    · rw [changes, statuses]
      exact coherent.allowed
  · refine ⟨?_, ?_⟩
    · rw [shift.now, noted, shift.statuses]
      rfl
    · rw [changes, shift.statuses, Status.changes, List.forall_mem_cons]
      have allowed := shift.allowed
      rw [coherent.now] at allowed
      exact ⟨allowed, coherent.allowed⟩

theorem halts_of_step (coherent : session.IsCoherent) (stands : session.Stands phase)
    (step : Step mover session after) :
    after.halts = session.halts ∨ ∃ id stage,
      mover = some id ∧ session.stage? id = some stage ∧ stage.isStopping := by
  rcases shift_of_step stands step with ⟨statuses, -⟩ | ⟨status, shift⟩
  · exact .inl (by rw [halts, halts, changes, changes, statuses])
  · by_cases running : session.handle.status = .running
    · exact .inr (shift.cause running)
    · rw [coherent.now] at running
      left
      rw [halts, changes, shift.statuses, Status.changes, List.countP_cons]
      have still : (session.statuses.head?.getD .idle == .running) = false := by
        simpa [noted] using running
      simp [still, halts, changes]

/-- The daemon leaves the running state only in a turn of a task that began in order to stop it, or
in order to watch for its exit. -/
theorem halts_of_steps (coherent : session.IsCoherent) (stands : session.Stands phase)
    (present : ∀ id, mover = some id → id < session.tasks.length)
    (steps : Steps mover session after) :
    after.halts = session.halts ∨ ∃ id stage,
      mover = some id ∧ session.stage? id = some stage ∧ stage.isStopping := by
  induction steps using Relation.ReflTransGen.head_induction_on generalizing phase with
  | refl => exact .inl rfl
  | @head first middle step rest inductionHypothesis =>
      obtain ⟨next, standing, -⟩ := stands.step step
      have still (id : TaskId) (moves : mover = some id) : id < middle.tasks.length :=
        Nat.lt_of_lt_of_le (present id moves) (length_of_step step)
      rcases inductionHypothesis (coherent.step stands step) standing still with same | cause
      · rw [same]
        exact halts_of_step coherent stands step
      · obtain ⟨id, stage, moves, found, stopping⟩ := cause
        exact .inr ⟨id, stage, moves,
          stage?_of_step_stopping step stopping (present id moves) found, stopping⟩

/-- A watch leaves the state as it is unless the process has ended and is the daemon's. -/
theorem runWatch_statuses {id : TaskId} {pid : Pid}
    (other : ¬ (session.handle.process = some pid ∧ session.hasExited pid)) :
    (session.runWatch id pid).statuses = session.statuses := by
  rw [runWatch]
  split
  next => rfl
  next code exited =>
    have ended : session.hasExited pid := by rw [hasExited, World.hasExited, exited]; rfl
    have different : session.handle.process ≠ some pid := fun current => other ⟨current, ended⟩
    simp [different]

theorem move_statuses {id : TaskId} {move : Move} (moves : session.mover move = some id) :
    (session.move move).statuses =
      ({ session with ready := session.ready.erase id }.resume id).statuses := by
  rcases move_of_mover moves with turn | turn <;> rw [turn] <;> rfl

theorem halts_of_statuses (same : after.statuses = session.statuses) :
    after.halts = session.halts := by
  rw [halts, halts, changes, changes, same]

/-- The daemon leaves the running state only by the turn of a caller that asks for it to stop, or by
that of a task that watches for the exit of the daemon's process, after that exit. -/
theorem halts_of_move (coherent : session.IsCoherent) (stands : session.Stands phase) {move : Move}
    (left : session.halts < (session.move move).halts) :
    ∃ id, session.mover move = some id ∧ (session.stage? id = some .stop ∨
      ∃ pid, session.stage? id = some (.watch pid) ∧ session.handle.process = some pid ∧
        session.hasExited pid) := by
  have grown : (session.move move).halts ≠ session.halts := Nat.ne_of_gt left
  have steps := move_steps stands.live move
  cases moves : session.mover move with
  | none =>
      rw [moves] at steps
      have nobody (id : TaskId) (same : none = some id) : id < session.tasks.length := nomatch same
      rcases halts_of_steps coherent stands nobody steps with same | ⟨_, _, same, -, -⟩
      · exact absurd same grown
      · cases same
  | some id =>
      let queue := { session with ready := session.ready.erase id }
      cases found : session.stage? id with
      | none =>
          refine absurd (halts_of_statuses ?_) grown
          have missing : queue.stage? id = none := found
          rw [move_statuses moves, resume_of_absent missing]
          rfl
      | some stage =>
          rw [moves] at steps
          have present (other : TaskId) (same : some id = some other) :
              other < session.tasks.length := Option.some.inj same ▸ lt_of_stage? found
          rcases halts_of_steps coherent stands present steps with same | cause
          · exact absurd same grown
          · obtain ⟨other, begun, same, there, stopping⟩ := cause
            cases same
            rw [found] at there
            cases there
            refine ⟨id, rfl, ?_⟩
            cases stage with
            | stop => exact .inl found
            | watch pid =>
                refine .inr ⟨pid, found, ?_⟩
                by_contra other
                refine absurd (halts_of_statuses ?_) grown
                have standing : queue.stage? id = some (.watch pid) := found
                rw [move_statuses moves, resume_of_stage standing]
                split
                next => rfl
                next => exact @runWatch_statuses queue id pid other
            | _ => cases stopping

end History

/-- The task is an attempt to start that has not ended. -/
def isAttempting (session : Session) (id : TaskId) : Bool :=
  (session.stage? id).any Stage.isAttempt

theorem phase?_of_isAttempting {session : Session} {id : TaskId}
    (attempting : session.isAttempting id) : ∃ phase, session.phase? id = some phase := by
  rw [isAttempting] at attempting
  cases found : session.stage? id with
  | none => simp [found] at attempting
  | some stage =>
      rw [phase?_of_stage? found]
      rw [found] at attempting
      cases stage <;> first | exact ⟨_, rfl⟩ | cases attempting

theorem Stands.isAttempting {session : Session} {phase : Phase} {id : TaskId}
    (stands : session.Stands phase) (unfinished : phase.attempt? = some id) :
    session.isAttempting id := by
  have standing := stands.attempts id
  rw [if_pos unfinished, Session.phase?] at standing
  obtain ⟨stage, found, own⟩ := Option.bind_eq_some_iff.mp standing
  rw [Session.isAttempting, found, Option.any_some]
  cases stage <;> first | rfl | cases own

/-- What holds of a daemon at every moment of every run. -/
structure IsOrderly (session : Session) : Prop where
  /-- At most one attempt to start is unfinished. -/
  attempts : ∀ first second, session.isAttempting first → session.isAttempting second →
    first = second
  /-- Only a daemon that starts or runs has a process. -/
  process : session.handle.process ≠ none →
    session.handle.status = .starting ∨ session.handle.status = .running
  /-- The process of a running daemon was spawned last, and has shown the ready marker. -/
  running : session.handle.status = .running → ∃ pid marker,
    session.handle.process = some pid ∧ session.world.latestPid? = some pid ∧
      session.handle.settings.readyMarker = some marker ∧
        marker.toList <:+: (session.world.errors pid).shown
  /-- The history of the states tells the state. -/
  now : session.handle.status = session.noted
  /-- The state changes along the allowed changes only. -/
  allowed : ∀ change ∈ session.changes, change.1 = change.2 ∨ change.1.LeadsTo change.2
  /-- The daemon leaves the running state only where a caller asks for it to stop, or where the
  exit of its process is noticed. -/
  left : ∀ move, session.halts < (session.move move).halts →
    ∃ id, session.mover move = some id ∧ (session.stage? id = some .stop ∨
      ∃ pid, session.stage? id = some (.watch pid) ∧ session.handle.process = some pid ∧
        session.hasExited pid)

theorem fresh_listens (settings : Settings) (tree : Tree) : (fresh settings tree).Listens :=
  ⟨nofun, nofun, nofun⟩

theorem fresh_isCoherent (settings : Settings) (tree : Tree) :
    (fresh settings tree).IsCoherent :=
  ⟨rfl, nofun⟩

/-- A daemon is orderly at every moment of every run, whatever is called, cancelled, spawned,
written and ended in whatever order. -/
theorem follow_isOrderly (settings : Settings) (tree : Tree) (moves : List Move) :
    ((fresh settings tree).follow moves).IsOrderly := by
  obtain ⟨⟨coherent, listens⟩, phase, stands⟩ := follow_keep
    (fun session => session.IsCoherent ∧ session.Listens)
    (fresh_stands settings tree) ⟨fresh_isCoherent settings tree, fresh_listens settings tree⟩
    (fun stands holds step => ⟨holds.1.step stands step, holds.2.step stands step⟩) moves
  generalize (fresh settings tree).follow moves = session at *
  refine ⟨fun first second one two => ?_, fun present => ?_, fun running => ?_, coherent.now,
    coherent.allowed, fun move => halts_of_move coherent stands⟩
  · obtain ⟨former, unfinished⟩ := phase?_of_isAttempting one
    obtain ⟨latter, pending⟩ := phase?_of_isAttempting two
    exact Option.some.inj ((stands.attempt_eq unfinished).symm.trans (stands.attempt_eq pending))
  · obtain ⟨pid, current⟩ := Option.ne_none_iff_exists'.mp present
    rcases stands.current current with ⟨attempt, rfl⟩ | rfl
    · exact .inl stands.status
    · exact .inr stands.status
  · obtain ⟨pid, marker, current, setting, shown⟩ := listens.shown running
    obtain ⟨other, rfl, same⟩ := stands.running running
    cases current.symm.trans same
    exact ⟨pid, marker, current, stands.latest pid rfl, setting, shown⟩

end Session

end EmacsSession
