/-
This file shows how callers that wait for an attempt to start end.
-/

import EmacsSession.Proofs.Session.Lifecycle

namespace EmacsSession.Session

/-- The attempt that is remembered is one that is unfinished or has ended. -/
def Remembers (session : Session) : Prop :=
  ∀ attempt, session.handle.attempt = some attempt →
    session.isAttempting attempt ∨ session.hasEnded attempt

/-- A remembered attempt has ended, although the daemon does not run. -/
def IsStale (session : Session) : Prop :=
  session.handle.status ≠ .running ∧
    ∃ attempt, session.handle.attempt = some attempt ∧ session.hasEnded attempt

section Waiting

variable {session after : Session} {phase : Phase} {mover : Option TaskId}
  {id attempt : TaskId} {stage : Stage}

theorem hasEnded_iff :
    session.hasEnded id ↔ ∃ ending, session.stage? id = some (.ended ending) := by
  rw [hasEnded, ending?]
  cases found : session.stage? id with
  | none => simp
  | some stage => cases stage <;> simp [Stage.ending?]

theorem ending?_eq_some {ending : Ending} :
    session.ending? id = some ending ↔ session.stage? id = some (.ended ending) := by
  rw [ending?]
  cases found : session.stage? id with
  | none => simp
  | some stage => cases stage <;> simp [Stage.ending?]

theorem isAttempting_iff :
    session.isAttempting id ↔ ∃ stage, session.stage? id = some stage ∧ stage.isAttempt := by
  rw [isAttempting]
  cases found : session.stage? id <;> simp

theorem stage?_becomeReady_self {pid : Pid} {diagnostics : Diagnostics}
    (present : attempt < session.tasks.length) :
    (session.becomeReady attempt pid diagnostics).stage? attempt =
      some (.ended (.returned none)) := by
  rw [stage?_of_tasks (becomeReady_tasks _ _ _ _ present),
    stage?_begin_of_lt (by simpa using Nat.lt_succ_of_lt present),
    stage?_begin_of_lt (by simpa using present), stage?_moveTo_self present]

/-- An unfinished attempt goes on, or ends; it returns where the daemon has become ready, and is
never cancelled. -/
theorem isAttempting_of_step (step : Step mover session after)
    (attempting : session.isAttempting attempt) :
    after.isAttempting attempt ∨ mover = some attempt ∧ ∃ ending,
      after.stage? attempt = some (.ended ending) ∧
        (∀ text, ending = .returned text → after.handle.status = .running) ∧
          ending ≠ .cancelled := by
  obtain ⟨stage, standing, own⟩ := isAttempting_iff.mp attempting
  have present := lt_of_stage? standing
  by_cases moves : mover = some attempt
  · subst moves
    cases step with
    | quiet quiet =>
        exact .inl (isAttempting_iff.mpr ⟨stage, stage?_of_tasks quiet.tasks ▸ standing, own⟩)
    | develop pid change continues => exact .inl attempting
    | yield found yielding flagged =>
        cases found.symm.trans standing
        rw [Stage.isYielding_of_isAttempt own] at yielding
        cases yielding
    | enter found => exact .inl attempting
    | refuse found starting fault =>
        exact .inr ⟨rfl, _, stage?_moveTo_self present, nofun, nofun⟩
    | collapse found starting fault =>
        exact .inr ⟨rfl, _, stage?_moveTo_self present, nofun, nofun⟩
    | spawn => exact .inl (isAttempting_iff.mpr ⟨_, stage?_moveTo_self present, rfl⟩)
    | attach => exact .inl (isAttempting_iff.mpr ⟨_, stage?_moveTo_self present, rfl⟩)
    | read => exact .inl (isAttempting_iff.mpr ⟨_, stage?_moveTo_self present, rfl⟩)
    | close => exact .inl (isAttempting_iff.mpr ⟨_, stage?_moveTo_self present, rfl⟩)
    | ready => exact .inr ⟨rfl, _, stage?_becomeReady_self present, fun _ _ => rfl, nofun⟩
    | abort => exact .inl (isAttempting_iff.mpr ⟨_, stage?_moveTo_self present, rfl⟩)
    | fail found exited => exact .inr ⟨rfl, _, stage?_moveTo_self present, nofun, nofun⟩
    | evaluate found evaluation goes alter moves =>
        cases found.symm.trans standing
        rw [Stage.isEvaluation_of_isAttempt own] at evaluation
        cases evaluation
    | _ =>
        cases (‹session.stage? attempt = some _› : _ = _).symm.trans standing
        cases own
  · have still := (stage?_of_step step moves present).trans standing
    exact .inl (isAttempting_iff.mpr ⟨stage, still, own⟩)

/-- A caller that waits for an attempt ends as the attempt ended, or is cancelled. -/
theorem awaitAttempt_of_step {enters : Bool} (step : Step mover session after)
    (waiting : session.stage? id = some (.awaitAttempt attempt enters)) :
    after.stage? id = some (.awaitAttempt attempt enters) ∨
      mover = some id ∧ ∃ outcome, after.stage? id = some (.ended outcome) ∧ (outcome = .cancelled ∨
        ∃ ending, session.ending? attempt = some ending ∧ ending.Passes outcome) := by
  by_cases moves : mover = some id
  · subst moves
    have present := lt_of_stage? waiting
    cases step with
    | quiet quiet => exact .inl (stage?_of_tasks quiet.tasks ▸ waiting)
    | develop pid change continues => exact .inl waiting
    | yield found yielding flagged =>
        cases found.symm.trans waiting
        cases yielding
    | @leave _ _ _ _ ending outcome found ended passes =>
        cases found.symm.trans waiting
        refine .inr ⟨rfl, outcome, stage?_moveTo_self ?_, .inr ⟨ending, ended, passes⟩⟩
        rwa [forget_tasks]
    | abandon found flagged =>
        refine .inr ⟨rfl, _, stage?_moveTo_self ?_, .inl rfl⟩
        rwa [forget_tasks]
    | abort found own fault =>
        cases found.symm.trans waiting
        cases own
    | evaluate found evaluation goes alter moves =>
        cases found.symm.trans waiting
        cases evaluation
    | _ => cases (‹session.stage? id = some _› : _ = _).symm.trans waiting
  · exact .inl ((stage?_of_step step moves (lt_of_stage? waiting)).trans waiting)

/-- A task that has ended changes the state of the daemon no more. -/
theorem status_of_ended {ending : Ending} (step : Step (some id) session after)
    (ended : session.stage? id = some (.ended ending)) :
    after.handle.status = session.handle.status := by
  cases step with
  | quiet quiet => exact quiet.status
  | develop pid change continues => rfl
  | yield found yielding flagged =>
      cases found.symm.trans ended
      cases yielding
  | abort found waking fault =>
      cases found.symm.trans ended
      cases waking
  | evaluate found evaluation goes alter moves =>
      cases found.symm.trans ended
      cases evaluation
  | _ => cases (‹session.stage? id = some _› : _ = _).symm.trans ended

theorem attempt_forget {other : TaskId}
    (memo : (session.forget other).handle.attempt = some attempt) :
    session.handle.attempt = some attempt := by
  rw [forget] at memo
  split at memo
  next => cases memo
  next => exact memo

/-- An attempt is remembered from the moment on at which it begins, for a caller that goes on to
wait for it. -/
theorem attempt_of_step (step : Step mover session after)
    (memo : after.handle.attempt = some attempt) :
    session.handle.attempt = some attempt ∨ after.stage? attempt = some .attempt ∧
      ∃ id enters, mover = some id ∧ after.stage? id = some (.awaitAttempt attempt enters) := by
  cases step with
  | quiet quiet =>
      obtain ⟨_, _, _, _, _, rfl, -, -⟩ := quiet
      exact .inl memo
  | ask found notRunning free =>
      cases memo
      have present := lt_of_stage? found
      refine .inr ⟨?_, _, _, rfl, stage?_moveTo_self (by simpa using Nat.lt_succ_of_lt present)⟩
      rw [stage?_moveTo_of_ne (Nat.ne_of_gt present)]
      exact stage?_begin_self
  | leave found ended passes => exact .inl (attempt_forget memo)
  | abandon found flagged => exact .inl (attempt_forget memo)
  | dismiss found running current message =>
      rw [moveTo_handle, dismiss_handle] at memo
      exact .inl memo
  | release found exited =>
      rw [moveTo_handle, releaseBackground_handle] at memo
      exact .inl memo
  | _ => exact .inl memo

theorem Remembers.step (remembers : session.Remembers) (step : Step mover session after) :
    after.Remembers := by
  intro attempt memo
  rcases attempt_of_step step memo with before | ⟨begun, -⟩
  · rcases remembers attempt before with attempting | ended
    · rcases isAttempting_of_step step attempting with still | ⟨-, ending, ends, -⟩
      · exact .inl still
      · exact .inr (hasEnded_iff.mpr ⟨ending, ends⟩)
    · obtain ⟨ending, ends⟩ := hasEnded_iff.mp ended
      exact .inr (hasEnded_iff.mpr ⟨ending, ended_of_step step ends⟩)
  · exact .inl (isAttempting_iff.mpr ⟨.attempt, begun, rfl⟩)

/-- No task has ended that goes on to another stage, and none begins at its end. -/
theorem ended_before_step {ending : Ending} (step : Step mover session after)
    (other : mover ≠ some id) (ended : after.stage? id = some (.ended ending)) :
    session.stage? id = some (.ended ending) := by
  cases arrival_of_step step ended with
  | stay before => exact before
  | proceed moves before proceeds => exact absurd moves other
  | call new nobody call => cases call
  | attend new given found same looks => cases looks

theorem ended_of_follow {ending : Ending} (stands : session.Stands phase)
    (ended : session.stage? id = some (.ended ending)) (moves : List Move) :
    (session.follow moves).stage? id = some (.ended ending) :=
  (follow_keep (fun session => session.stage? id = some (.ended ending)) stands ended
    (fun _ ended step => ended_of_step step ended) moves).1

/-- An attempt that returns by a move leaves the daemon running, and none is cancelled. -/
theorem isAttempting_of_move (stands : session.Stands phase)
    (attempting : session.isAttempting attempt) (move : Move) :
    (session.move move).isAttempting attempt ∨ ∃ ending,
      (session.move move).stage? attempt = some (.ended ending) ∧
        (∀ text, ending = .returned text → (session.move move).handle.status = .running) ∧
          ending ≠ .cancelled := by
  let holds (after : Session) := after.isAttempting attempt ∨
    session.mover move = some attempt ∧ ∃ ending, after.stage? attempt = some (.ended ending) ∧
      (∀ text, ending = .returned text → after.handle.status = .running) ∧ ending ≠ .cancelled
  have kept : holds (session.move move) := by
    refine (Steps.keep holds stands (.inl attempting) (fun _ here step => ?_)
      (move_steps stands.live move)).1
    rcases here with attempting | ⟨moves, ending, ended, running, own⟩
    · exact isAttempting_of_step step attempting
    · refine .inr ⟨moves, ending, ended_of_step step ended, fun text returned => ?_, own⟩
      rw [moves] at step
      rw [status_of_ended step ended]
      exact running text returned
  exact kept.imp_right And.right

/-- A caller that ends by a move ends as the attempt had ended before the move, or is cancelled. -/
theorem awaitAttempt_of_move {enters : Bool} (stands : session.Stands phase)
    (waiting : session.stage? id = some (.awaitAttempt attempt enters)) (move : Move) :
    (session.move move).stage? id = some (.awaitAttempt attempt enters) ∨
      ∃ outcome, (session.move move).stage? id = some (.ended outcome) ∧ (outcome = .cancelled ∨
        ∃ ending, session.ending? attempt = some ending ∧ ending.Passes outcome) := by
  -- While the caller goes on no attempt ends, so the one that it leaves had ended before the move.
  let holds (after : Session) :=
    (after.stage? id = some (.awaitAttempt attempt enters) ∧ (session.mover move = some id →
        ∀ ending, after.ending? attempt = some ending → session.ending? attempt = some ending)) ∨
      ∃ outcome, after.stage? id = some (.ended outcome) ∧ (outcome = .cancelled ∨
        ∃ ending, session.ending? attempt = some ending ∧ ending.Passes outcome)
  have begins : holds session := .inl ⟨waiting, fun _ _ ended => ended⟩
  have kept : holds (session.move move) := by
    refine (Steps.keep holds stands begins (fun _ here step => ?_)
      (move_steps stands.live move)).1
    rcases here with ⟨waits, before⟩ | ⟨outcome, ended, passed⟩
    · rcases awaitAttempt_of_step step waits with still | ⟨moves, outcome, ends, how⟩
      · refine .inl ⟨still, fun moves ending ended => before moves ending ?_⟩
        rw [ending?_eq_some] at ended ⊢
        refine ended_before_step step (fun same => ?_) ended
        cases moves.symm.trans same
        cases still.symm.trans ended
      · exact .inr ⟨outcome, ends,
          how.imp_right fun ⟨ending, ended, passes⟩ => ⟨ending, before moves ending ended, passes⟩⟩
    · exact .inr ⟨outcome, ended_of_step step ended, passed⟩
  exact kept.imp_left And.left

end Waiting

end EmacsSession.Session
