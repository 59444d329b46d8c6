/-
This file shows what a session waits for in which no task is to run.
-/

import EmacsSession.Proofs.Session.Conduct

namespace EmacsSession

/-- A task in this stage waits for a process whose pipes are not connected, or which has neither
shown more nor closed its diagnostics, or which has not ended. -/
def World.HoldsUp (world : World) : Stage → Prop
  | .awaitSpawn pid => world.Knows pid ∧ world.isConnected pid = false
  | .awaitReady pid _ => world.Knows pid ∧ (world.errors pid).isReadable = false
  | .awaitCode pid | .awaitEnd pid _ | .awaitTermination pid =>
      world.Knows pid ∧ world.hasExited pid = false
  | _ => False

namespace Session

/-- A task in this stage waits for such a process, or for an attempt that does. -/
def IsHeldUp (session : Session) (stage : Stage) : Prop :=
  session.world.HoldsUp stage ∨ ∃ attempt enters standing, stage = .awaitAttempt attempt enters ∧
    session.stage? attempt = some standing ∧ session.world.HoldsUp standing

/-- Every task that can go on is to run. -/
def IsWoken (session : Session) : Prop :=
  ∀ id task, session.tasks[id]? = some task → session.canRun task → id ∈ session.ready

/-- A caller waits for an attempt only where there is one. -/
def Joins (session : Session) : Prop :=
  ∀ id attempt enters, session.stage? id = some (.awaitAttempt attempt enters) →
    session.isAttempting attempt ∨ session.hasEnded attempt

section Waking

variable {session : Session} {phase : Phase} {id : TaskId} {stage : Stage} {pid : Pid}

theorem wake_isWoken (session : Session) : session.wake.IsWoken := by
  intro id task present goes
  have same : session.wake.canRun task = session.canRun task := rfl
  have here : session.tasks[id]? = some task := present
  rw [same] at goes
  rw [wake, List.mem_append]
  by_cases waits : id ∈ session.ready
  · exact .inl waits
  · right
    have inside := (List.getElem?_eq_some_iff.mp here).1
    rw [List.mem_filter, List.mem_range, here]
    exact ⟨inside, by simp [goes, waits]⟩

theorem IsWoken.move (woken : session.IsWoken) (move : Move) : (session.move move).IsWoken := by
  cases move with
  | event event => exact wake_isWoken _
  | turn id =>
      rw [Session.move]
      split
      next => exact wake_isWoken _
      next => exact woken

theorem IsWoken.follow (woken : session.IsWoken) (moves : List Move) :
    (session.follow moves).IsWoken := by
  induction moves generalizing session with
  | nil => exact woken
  | cons move moves inductionHypothesis => exact inductionHypothesis (woken.move move)

/-- Where no task is to run, none can go on. -/
theorem IsWoken.stays (woken : session.IsWoken) (still : session.ready = [])
    (found : session.stage? id = some stage) :
    session.canRun ⟨stage, session.isFlagged id⟩ = false := by
  obtain ⟨⟨standing, flag⟩, present, rfl⟩ := Option.map_eq_some_iff.mp found
  rw [isFlagged, present, Option.any_some]
  by_contra goes
  have waits := woken id _ present (by simpa using goes)
  rw [still] at waits
  cases waits

/-- The exit of a running daemon is noticed by a task that is to run, and the daemon stops then. -/
theorem noticed_of_exit (woken : session.IsWoken) (tended : session.IsTended pid)
    (runs : session.RunsAs pid) (exited : session.hasExited pid) :
    ∃ watch ∈ session.ready, session.stage? watch = some (.watch pid) ∧
      (session.move (.turn watch)).handle.status = .stopped := by
  obtain ⟨relay, watch, tends⟩ := tended
  obtain ⟨task, present, same⟩ := Option.map_eq_some_iff.mp tends.watches
  have goes : session.canRun task := by simp [canRun, same, exited]
  have waits := woken watch task present goes
  have moves : session.mover (.turn watch) = some watch := by simp [mover, waits]
  obtain ⟨ready, turns⟩ := turn_eq moves tends.watches tends.steady
  obtain ⟨code, ended⟩ := Option.isSome_iff_exists.mp exited
  have here : session.world.exitCode? pid = some code := ended
  refine ⟨watch, waits, tends.watches, ?_⟩
  rw [turns]
  simp only [proceed, runWatch, here, runs.2, beq_self_eq_true, if_true]
  rfl

end Waking

section Joining

variable {session after : Session} {phase : Phase} {mover : Option TaskId} {id attempt : TaskId}
  {enters : Bool}

/-- A caller that begins to wait for an attempt waits for the one that is remembered. -/
theorem memo_of_join (step : Step mover session after)
    (asks : session.stage? id = some (.start enters))
    (waits : after.stage? id = some (.awaitAttempt attempt enters)) :
    after.handle.attempt = some attempt := by
  have present := lt_of_stage? asks
  have moved {changed : Session} {stage : Stage} (tasks : changed.tasks = session.tasks)
      (here : (changed.moveTo id stage).stage? id = some (.awaitAttempt attempt enters)) :
      stage = .awaitAttempt attempt enters := by
    rw [stage?_moveTo_self (tasks ▸ present)] at here
    exact Option.some.inj here
  by_cases moves : mover = some id
  · subst moves
    cases step with
    | quiet quiet =>
        rw [stage?_of_tasks quiet.tasks] at waits
        cases stage?_inj waits asks
    | develop pid change continues => cases stage?_inj waits asks
    | yield found yielding flagged => cases moved rfl waits
    | greet found running text => cases moved rfl waits
    | ask found notRunning free =>
        have here : id < ((session.begin .attempt).withHandle fun handle =>
            { handle with attempt := some session.tasks.length }).tasks.length := by
          simpa using Nat.lt_succ_of_lt present
        rw [stage?_moveTo_self here] at waits
        cases waits
        rfl
    | join found notRunning memo =>
        cases moved rfl waits
        exact memo
    | abort found waking fault =>
        cases stage?_inj found asks
        cases waking
    | evaluate found evaluation goes alter moves =>
        cases stage?_inj found asks
        cases evaluation
    | _ => cases stage?_inj (‹session.stage? id = some _›) asks
  · rw [stage?_of_step step moves present] at waits
    cases stage?_inj waits asks

theorem Joins.step (joins : session.Joins) (remembers : session.Remembers)
    (step : Step mover session after) : after.Joins := by
  intro id attempt enters waits
  cases arrival_of_step step waits with
  | stay before =>
      rcases joins id attempt enters before with attempting | ended
      · rcases isAttempting_of_step step attempting with still | ⟨-, ending, ends, -⟩
        · exact .inl still
        · exact .inr (hasEnded_iff.mpr ⟨ending, ends⟩)
      · obtain ⟨ending, ends⟩ := hasEnded_iff.mp ended
        exact .inr (hasEnded_iff.mpr ⟨ending, ended_of_step step ends⟩)
  | proceed moves before proceeds =>
      cases proceeds with
      | join => exact remembers.step step attempt (memo_of_join step before waits)
      | evaluate evaluation still => cases still
  | call new nobody call => cases call
  | attend new given found same looks => cases looks

end Joining

section Stillness

variable {session : Session} {phase : Phase} {id : TaskId} {stage : Stage}

/-- An unfinished attempt waits for its process. -/
theorem holdsUp_of_attempt (stands : session.Stands phase) (woken : session.IsWoken)
    (still : session.ready = []) (found : session.stage? id = some stage)
    (own : stage.isAttempt) : session.world.HoldsUp stage := by
  have stays := woken.stays still found
  have known {pid : Pid} (phase : Phase) (about : phase.pid? = some pid)
      (unfinished : stage.phase? id = some phase) : session.world.Knows pid :=
    (stands.eq_of_stage? found unfinished ▸ stands).known about
  cases stage with
  | attempt => cases stays
  | awaitSpawn pid => exact ⟨known _ rfl rfl, stays⟩
  | awaitReady pid readiness => exact ⟨known _ rfl rfl, stays⟩
  | awaitCode pid => exact ⟨known _ rfl rfl, stays⟩
  | awaitEnd pid fault => exact ⟨known _ rfl rfl, stays⟩
  | _ => cases own

/-- No caller waits for the end of background tasks where no task is to run. -/
theorem IsSerial.not_awaitBackground (serial : session.IsSerial) (woken : session.IsWoken)
    (still : session.ready = []) (tasks : List TaskId) :
    session.stage? id ≠ some (.awaitBackground tasks) := by
  intro waiting
  obtain ⟨other, member, going⟩ := List.all_eq_false.mp (woken.stays still waiting)
  obtain ⟨stage, found, minding, ends⟩ := serial.released id tasks waiting other member
  have stays := woken.stays still found
  cases stage with
  | ended ending => exact going (hasEnded_iff.mpr ⟨ending, found⟩)
  | relay pid diagnostics =>
      have flagged := ends.resolve_left nofun
      cases flagged.symm.trans (Bool.or_eq_false_iff.mp stays).1
  | watch pid =>
      have flagged := ends.resolve_left nofun
      cases flagged.symm.trans (Bool.or_eq_false_iff.mp stays).1
  | _ => cases minding

/-- Where no task is to run, a caller that does not evaluate waits for a process. -/
theorem isHeldUp_of_caller (serial : session.IsSerial) (stands : session.Stands phase)
    (joins : session.Joins) (woken : session.IsWoken) (still : session.ready = [])
    (found : session.stage? id = some stage) (caller : stage.isCaller)
    (other : stage.isEvaluation = false) : session.IsHeldUp stage := by
  have stays := woken.stays still found
  cases stage with
  | start enters => cases stays
  | stop => cases stays
  | awaitAttempt attempt enters =>
      have attempting := (joins id attempt enters found).resolve_right fun ended => by
        cases ended.symm.trans (Bool.or_eq_false_iff.mp stays).2
      obtain ⟨standing, there, own⟩ := isAttempting_iff.mp attempting
      exact .inr ⟨attempt, enters, standing, rfl, there,
        holdsUp_of_attempt stands woken still there own⟩
  | awaitTermination pid =>
      exact .inl ⟨(serial.halts id pid found).2, (Bool.or_eq_false_iff.mp stays).2⟩
  | awaitBackground tasks => exact absurd found (serial.not_awaitBackground woken still tasks)
  | evaluate form input => cases other
  | awaitClientSpawn pid input => cases other
  | awaitAnswer pid => cases other
  | awaitClientEnd pid ending => cases other
  | _ => cases caller

end Stillness

end Session

end EmacsSession
