/-
This file shows how a session stands in which each call ends before the next one is made.
-/

import EmacsSession.Proofs.Session.Coexistence
import EmacsSession.Proofs.Session.Overtaking
import EmacsSession.Proofs.Session.Registry
import EmacsSession.Proofs.Session.Touch

namespace EmacsSession

/-- The stages of a task that looks after a process, or has ended. -/
def Stage.isMinding : Stage → Bool
  | .relay _ _ | .watch _ | .ended _ => true
  | _ => false

theorem Stage.not_isWaking_of_isMinding {stage : Stage} {pid : Pid} (minding : stage.isMinding) :
    ¬ stage.isWaking pid := by
  cases stage <;> first | exact id | cases minding

theorem Stage.isCaller_of_isMinding {stage : Stage} (minding : stage.isMinding) :
    stage.isCaller = false := by
  cases stage <;> first | rfl | cases minding

namespace Session

/-- No call is unfinished. -/
def IsIdle (session : Session) : Prop :=
  ∀ id stage, session.stage? id = some stage → stage.isCaller = false

/-- The move makes a call only where no other one is unfinished, cancels none, and lets nothing fail
but the making of init directories, and spawns that the operating system refuses. -/
def Allows (session : Session) : Move → Prop
  | .event (.start _) | .event .stop | .event (.evaluate _ _) | .event .discardDirectory =>
      session.IsIdle
  | .event (.cancel _) => False
  | .event (.plan (.unfit _)) => False
  | .event (.breakErrors pid _) => ∀ process, session.world.process? pid = some process →
      process.isDaemon = false
  | _ => True

/-- Each call of a run ends before the next one is made. -/
def IsSequential (session : Session) (moves : List Move) : Prop :=
  ∀ before move after, moves = before ++ move :: after → (session.follow before).Allows move

/-- The background tasks of the handle look after a process, or have ended. -/
def IsMinded (session : Session) : Prop :=
  ∀ id ∈ session.handle.background, ∃ stage, session.stage? id = some stage ∧ stage.isMinding

/-- What holds of a session in which each call ends before the next one is made. -/
structure IsSerial (session : Session) : Prop where
  /-- At most one call is unfinished. -/
  alone : ∀ first second one two, session.stage? first = some one → one.isCaller →
    session.stage? second = some two → two.isCaller → first = second
  wanted : ∀ id stage, session.stage? id = some stage → stage.isCaller →
    session.isFlagged id = false
  /-- An attempt is remembered as long as the caller waits for it. -/
  memo : ∀ attempt, session.handle.attempt = some attempt →
    ∃ id enters, session.stage? id = some (.awaitAttempt attempt enters)
  halts : ∀ id pid, session.stage? id = some (.awaitTermination pid) →
    session.handle.status = .stopped ∧ session.world.Knows pid
  tended : session.handle.status = .running → session.handle.background ≠ []
  background : ∀ id ∈ session.handle.background,
    ∃ stage, session.stage? id = some stage ∧ stage.isMinding
  /-- A caller waits for the end of tasks that have ended, or are to be cancelled. -/
  released : ∀ id tasks, session.stage? id = some (.awaitBackground tasks) → ∀ task ∈ tasks,
    ∃ stage, session.stage? task = some stage ∧ stage.isMinding ∧
      (stage.ending?.isSome ∨ session.isFlagged task)
  /-- No daemon is alive but that of the phase, or one whose end the caller waits for. -/
  live : ∀ phase, session.Stands phase → ∀ pid, session.world.HasLiveDaemon pid →
    phase.pid? = some pid ∨ ∃ id, session.stage? id = some (.awaitTermination pid)

section Serial

variable {session after : Session} {phase : Phase} {mover : Option TaskId} {id attempt : TaskId}
  {stage : Stage} {pid : Pid} {enters : Bool}

/-- A caller that is there after a step was there before, unless a call is made by the step. -/
theorem caller_of_step (step : Step mover session after)
    (silent : mover = none → after.tasks = session.tasks)
    (here : after.stage? id = some stage) (caller : stage.isCaller) :
    ∃ earlier, session.stage? id = some earlier ∧ earlier.isCaller := by
  cases arrival_of_step step here with
  | stay before => exact ⟨stage, before, caller⟩
  | proceed moves before proceeds =>
      refine ⟨_, before, ?_⟩
      cases proceeds with
      | join => rfl
      | dismiss => rfl
      | release => rfl
      | evaluate evaluation still => exact Stage.isCaller_of_isEvaluation evaluation
      | _ => cases caller
  | call new nobody call =>
      have present := lt_of_stage? here
      rw [silent nobody] at present
      exact absurd present (Nat.not_lt.mpr new)
  | attempt new => cases caller
  | attend new given found same looks =>
      rw [Stage.isCaller_of_charge? looks] at caller
      cases caller

/-- The cancellation of a task is requested by a step only where the handle gives it up. -/
theorem flagged_of_step (step : Step mover session after)
    (silent : mover = none → after.tasks = session.tasks) (flagged : after.isFlagged id) :
    session.isFlagged id ∨ id ∈ session.handle.background := by
  have moved {changed : Session} {first : TaskId} {later : Stage}
      (tasks : changed.tasks = session.tasks)
      (flagged : (changed.moveTo first later).isFlagged id) : session.isFlagged id := by
    rwa [isFlagged_moveTo, isFlagged_of_tasks tasks] at flagged
  cases step with
  | quiet quiet => exact .inl (isFlagged_of_tasks quiet.tasks ▸ flagged)
  | develop pid change continues => exact .inl flagged
  | call later call => exact .inl (isFlagged_begin flagged)
  | cancel found caller => exact .inl (isFlagged_of_tasks (silent rfl) ▸ flagged)
  | ask found notRunning free =>
      rw [isFlagged_moveTo] at flagged
      exact .inl (isFlagged_begin flagged)
  | leave found ended passes => exact .inl (moved (forget_tasks _) flagged)
  | abandon found marked => exact .inl (moved (forget_tasks _) flagged)
  | enter found => exact .inl flagged
  | ready found setting shown diagnostics =>
      exact .inl (isFlagged_becomeReady (lt_of_stage? found) flagged)
  | dismiss found running current message => exact .inl (moved dismiss_tasks flagged)
  | release found exited =>
      rw [isFlagged_moveTo, isFlagged_releaseBackground, Bool.or_eq_true, Bool.and_eq_true,
        decide_eq_true_eq] at flagged
      exact flagged.imp_right And.left
  | @evaluate _ first earlier later found evaluation goes alter moves flags =>
      left
      simp only [isFlagged, alterTask_tasks, List.getElem?_modify] at flagged ⊢
      cases present : session.tasks[id]? with
      | none => simp [present] at flagged
      | some task =>
          by_cases same : first = id <;> simp_all
  | _ => exact .inl (moved rfl flagged)

/-- The cancellation of a task that is no caller is requested for good. -/
theorem flagged_lasts (step : Step mover session after) (found : session.stage? id = some stage)
    (own : stage.isCaller = false) (flagged : session.isFlagged id) : after.isFlagged id := by
  cases tending_of_step step with
  | keep background running flags => rwa [flags id stage found own]
  | take moves ready same =>
      have present := lt_of_stage? found
      rw [same, isFlagged_of_tasks (becomeReady_tasks _ _ _ _ (lt_of_stage? ready)),
        isFlagged_begin_of_lt (by simpa using Nat.lt_succ_of_lt present),
        isFlagged_begin_of_lt (by simpa using present), isFlagged_moveTo]
      exact flagged
  | release moves waiting exited same =>
      rw [same, isFlagged_moveTo, isFlagged_releaseBackground, flagged]
      rfl

/-- A task that looks after a process goes on to do so, or ends. -/
theorem minding_of_step (step : Step mover session after) (found : session.stage? id = some stage)
    (minding : stage.isMinding) :
    ∃ later, after.stage? id = some later ∧ later.isMinding ∧
      (stage.ending?.isSome → later.ending?.isSome) := by
  have present := lt_of_stage? found
  obtain ⟨later, here⟩ : ∃ later, after.stage? id = some later := by
    have inside := Nat.lt_of_lt_of_le present (length_of_step step)
    exact ⟨_, by rw [stage?, List.getElem?_eq_getElem inside]; rfl⟩
  refine ⟨later, here, ?_⟩
  rcases (arrival_of_step step here).old present with before | ⟨-, earlier, before, proceeds⟩
  · cases stage?_inj found before
    exact ⟨minding, fun ended => ended⟩
  · cases stage?_inj found before
    cases proceeds with
    | finish ending going => exact ⟨rfl, fun _ => rfl⟩
    | relay => exact ⟨rfl, fun ended => absurd ended Bool.false_ne_true⟩
    | abort waking => exact absurd waking (Stage.not_isWaking_of_isMinding minding)
    | evaluate evaluation still =>
        cases (Stage.isCaller_of_isEvaluation evaluation).symm.trans
          (Stage.isCaller_of_isMinding minding)
    | _ => cases minding

theorem IsMinded.step (minded : session.IsMinded) (step : Step mover session after) :
    after.IsMinded := by
  intro id member
  cases tending_of_step step with
  | keep background running flags =>
      rw [background] at member
      obtain ⟨stage, found, minding⟩ := minded id member
      obtain ⟨later, here, still, -⟩ := minding_of_step step found minding
      exact ⟨later, here, still⟩
  | @take attempt pid readiness diagnostics moves found same =>
      subst same
      have tended := tended_of_ready diagnostics found
      rcases List.mem_pair.mp member with rfl | rfl
      · rcases tended.forwards with ⟨later, relaying⟩ | ⟨⟨ending, ended, -⟩, -⟩
        · exact ⟨_, relaying, rfl⟩
        · exact ⟨_, ended, rfl⟩
      · exact ⟨_, tended.watches, rfl⟩
  | release moves found exited same =>
      subst same
      rw [moveTo_handle, releaseBackground_handle] at member
      cases member

namespace IsSerial

/-- The only caller is unfinished as long as another one would have to be it. -/
theorem eq_of_caller (serial : session.IsSerial) {other : TaskId} {one two : Stage}
    (first : session.stage? id = some one) (caller : one.isCaller)
    (second : session.stage? other = some two) (calls : two.isCaller) : one = two := by
  cases serial.alone id other one two first caller second calls
  exact stage?_inj first second

/-- An unfinished attempt has a caller that waits for it. -/
theorem waits (serial : session.IsSerial) (stands : session.Stands phase)
    (attempting : session.isAttempting attempt) :
    ∃ id enters, session.stage? id = some (.awaitAttempt attempt enters) := by
  obtain ⟨found, unfinished⟩ := phase?_of_isAttempting attempting
  exact serial.memo attempt (stands.memo attempt (stands.attempt_eq unfinished))

/-- No attempt is unfinished where the only caller waits for none. -/
theorem not_attempting (serial : session.IsSerial) (stands : session.Stands phase)
    (found : session.stage? id = some stage) (caller : stage.isCaller)
    (other : ∀ attempt enters, stage ≠ .awaitAttempt attempt enters) (attempt : TaskId) :
    ¬ session.isAttempting attempt := by
  intro attempting
  obtain ⟨waiter, enters, waiting⟩ := serial.waits stands attempting
  exact other attempt enters (serial.eq_of_caller found caller waiting rfl)

theorem not_attempting_of_idle (serial : session.IsSerial) (stands : session.Stands phase)
    (idle : session.IsIdle) (attempt : TaskId) : ¬ session.isAttempting attempt := by
  intro attempting
  obtain ⟨waiter, enters, waiting⟩ := serial.waits stands attempting
  cases idle waiter _ waiting

/-- A daemon that does not run rests unless the caller waits for an unfinished attempt. -/
theorem resting (serial : session.IsSerial) (stands : session.Stands phase)
    (notRunning : session.handle.status ≠ .running) (found : session.stage? id = some stage)
    (caller : stage.isCaller)
    (ended : ∀ attempt enters, stage = .awaitAttempt attempt enters → session.hasEnded attempt) :
    session.Stands .resting := by
  refine stands.resting_of_idle notRunning fun attempt attempting => ?_
  obtain ⟨other, enters, waiting⟩ := serial.waits stands attempting
  have same := serial.eq_of_caller found caller waiting rfl
  obtain ⟨ending, finished⟩ := hasEnded_iff.mp (ended attempt enters same)
  obtain ⟨standing, unfinished, own⟩ := isAttempting_iff.mp attempting
  cases stage?_inj finished unfinished
  cases own

theorem resting_of_awaitTermination (serial : session.IsSerial) (stands : session.Stands phase)
    (waiting : session.stage? id = some (.awaitTermination pid)) : session.Stands .resting := by
  refine serial.resting stands ?_ waiting rfl nofun
  rw [(serial.halts id pid waiting).1]
  nofun

theorem alone_of_step (serial : session.IsSerial) (step : Step mover session after)
    (silent : mover = none → after.tasks = session.tasks) :
    ∀ first second one two, after.stage? first = some one → one.isCaller →
      after.stage? second = some two → two.isCaller → first = second := by
  intro first second one two here caller there calls
  obtain ⟨former, before, called⟩ := caller_of_step step silent here caller
  obtain ⟨latter, earlier, calling⟩ := caller_of_step step silent there calls
  exact serial.alone first second former latter before called earlier calling

theorem wanted_of_step (serial : session.IsSerial) (step : Step mover session after)
    (silent : mover = none → after.tasks = session.tasks) :
    ∀ id stage, after.stage? id = some stage → stage.isCaller → after.isFlagged id = false := by
  intro id stage here caller
  obtain ⟨earlier, before, called⟩ := caller_of_step step silent here caller
  by_contra flagged
  rcases flagged_of_step step silent (by simpa using flagged) with marked | given
  · rw [serial.wanted id earlier before called] at marked
    cases marked
  · obtain ⟨standing, found, minding⟩ := serial.background id given
    cases stage?_inj before found
    rw [Stage.isCaller_of_isMinding minding] at called
    cases called

theorem released_of_step (serial : session.IsSerial) (step : Step mover session after) :
    ∀ id tasks, after.stage? id = some (.awaitBackground tasks) → ∀ task ∈ tasks,
      ∃ stage, after.stage? task = some stage ∧ stage.isMinding ∧
        (stage.ending?.isSome ∨ after.isFlagged task) := by
  intro id tasks waiting task member
  have keeps {stage : Stage} (found : session.stage? task = some stage) (minding : stage.isMinding)
      (ends : stage.ending?.isSome ∨ after.isFlagged task) :
      ∃ stage, after.stage? task = some stage ∧ stage.isMinding ∧
        (stage.ending?.isSome ∨ after.isFlagged task) := by
    obtain ⟨later, here, still, lasts⟩ := minding_of_step step found minding
    exact ⟨later, here, still, ends.imp_left lasts⟩
  cases arrival_of_step step waiting with
  | stay before =>
      obtain ⟨stage, found, minding, ends⟩ := serial.released id tasks before task member
      exact keeps found minding
        (ends.imp_right (flagged_lasts step found (Stage.isCaller_of_isMinding minding)))
  | proceed moves before proceeds =>
      cases proceeds with
      | release =>
          rcases awaitTermination_of_step step before with still | ⟨-, cancelled⟩ | ⟨-, equal⟩
          · cases stage?_inj still waiting
          · cases stage?_inj cancelled waiting
          · rw [equal, stage?_release before] at waiting
            cases waiting
            obtain ⟨stage, found, minding⟩ := serial.background task member
            refine keeps found minding ?_
            cases ended : stage.ending? with
            | some ending => exact .inl rfl
            | none =>
                rw [equal, isFlagged_moveTo, isFlagged_releaseBackground, found]
                simp [member, ended]
      | evaluate evaluation still => cases still
  | call new nobody call => cases call
  | attend new given found same looks => cases looks

theorem memo_of_step (serial : session.IsSerial) (step : Step mover session after) :
    ∀ attempt, after.handle.attempt = some attempt →
      ∃ id enters, after.stage? id = some (.awaitAttempt attempt enters) := by
  intro attempt memo
  rcases attempt_of_step step memo with before | ⟨-, id, enters, -, waiting⟩
  · obtain ⟨id, enters, waiting⟩ := serial.memo attempt before
    rcases awaitAttempt_of_step step waiting with still | ⟨moves, outcome, ended, -⟩
    · exact ⟨id, enters, still⟩
    · subst moves
      -- The caller leaves the attempt that it waited for, so the attempt is forgotten.
      exfalso
      cases step with
      | quiet quiet =>
          rw [stage?_of_tasks quiet.tasks] at ended
          cases stage?_inj ended waiting
      | develop pid change continues => cases stage?_inj ended waiting
      | yield found yielding flagged =>
          cases stage?_inj found waiting
          cases yielding
      | leave found finished passes =>
          cases stage?_inj found waiting
          have has : session.hasEnded attempt := by rw [hasEnded, finished]; rfl
          rw [finish_eq_moveTo, moveTo_handle, forget] at memo
          simp [has, before, withHandle] at memo
      | abandon found flagged =>
          rw [serial.wanted id _ waiting rfl] at flagged
          cases flagged
      | abort found waking fault =>
          cases stage?_inj found waiting
          cases waking
      | evaluate found evaluation goes alter moves flags =>
          cases stage?_inj found waiting
          cases evaluation
      | _ => cases stage?_inj (‹session.stage? id = some _›) waiting
  · exact ⟨id, enters, waiting⟩

theorem halts_of_step (serial : session.IsSerial) (stands : session.Stands phase)
    (step : Step mover session after) :
    ∀ id pid, after.stage? id = some (.awaitTermination pid) →
      after.handle.status = .stopped ∧ after.world.Knows pid := by
  intro id pid waiting
  rcases stop_of_step step waiting with before | ⟨runs, stopped⟩
  · obtain ⟨stopped, known⟩ := serial.halts id pid before
    have rests := serial.resting_of_awaitTermination stands before
    exact ⟨(status_of_resting rests step).trans stopped, knows_of_step rests step known⟩
  · exact ⟨stopped, knows_of_step stands step ((runs.stands stands).known rfl)⟩

theorem tended_of_step (serial : session.IsSerial) (stands : session.Stands phase)
    (step : Step mover session after) :
    after.handle.status = .running → after.handle.background ≠ [] := by
  intro running
  cases tending_of_step step with
  | keep background before flags =>
      rw [background]
      exact serial.tended (before running)
  | take moves found same =>
      subst same
      nofun
  | release moves found exited same =>
      have rests := serial.resting_of_awaitTermination stands found
      rw [status_of_resting rests step, (serial.halts _ _ found).1] at running
      cases running

theorem live_of_step (serial : session.IsSerial) (stands : session.Stands phase)
    (step : Step mover session after) :
    ∀ phase, after.Stands phase → ∀ pid, after.world.HasLiveDaemon pid →
      phase.pid? = some pid ∨ ∃ id, after.stage? id = some (.awaitTermination pid) := by
  intro next standing pid live
  rcases Session.live_of_step stands step live with before | ⟨id, spawned⟩
  · rcases serial.live phase stands pid before with own | ⟨id, waiting⟩
    · rcases own_of_step stands standing step own before with still | ⟨rfl, rfl⟩
      · exact .inl still
      · obtain ⟨id, -, -, waits⟩ := stop_of_halt stands step standing.status live.not_hasExited
        exact .inr ⟨id, waits⟩
    · rcases awaitTermination_of_step step waiting with still | ⟨flagged, -⟩ | ⟨exited, -⟩
      · exact .inr ⟨id, still⟩
      · rw [serial.wanted id _ waiting rfl] at flagged
        cases flagged
      · cases exited.symm.trans before.not_hasExited
  · cases spawned.unique standing
    exact .inl rfl

/-- Each small step by which no call is made keeps the calls apart. -/
theorem step (serial : session.IsSerial) (stands : session.Stands phase)
    (step : Step mover session after) (silent : mover = none → after.tasks = session.tasks) :
    after.IsSerial where
  alone := serial.alone_of_step step silent
  wanted := serial.wanted_of_step step silent
  memo := serial.memo_of_step step
  halts := serial.halts_of_step stands step
  tended := serial.tended_of_step stands step
  background := IsMinded.step serial.background step
  released := serial.released_of_step step
  live := serial.live_of_step stands step

/-- A call that is made after all others have ended is the only one. -/
theorem begin (serial : session.IsSerial) (stands : session.Stands phase) (idle : session.IsIdle)
    (call : stage.isCall) : (session.begin stage).IsSerial := by
  have only {id : TaskId} {standing : Stage}
      (here : (session.begin stage).stage? id = some standing) (caller : standing.isCaller) :
      id = session.tasks.length ∧ standing = stage := by
    apply (stage?_begin here).resolve_left
    intro before
    rw [idle id standing before] at caller
    cases caller
  have unheard {standing : Stage} (caller : standing.isCaller) (heard : standing.isCall = false)
      {id : TaskId} (waiting : (session.begin stage).stage? id = some standing) : False := by
    obtain ⟨-, rfl⟩ := only waiting caller
    cases heard.symm.trans call
  constructor
  · intro first second one two here caller there calls
    rw [(only here caller).1, (only there calls).1]
  · intro id standing here caller
    by_contra flagged
    have marked := lt_of_isFlagged (isFlagged_begin (by simpa using flagged))
    rw [(only here caller).1] at marked
    exact absurd marked (Nat.lt_irrefl _)
  · intro attempt memo
    obtain ⟨id, enters, waiting⟩ := serial.memo attempt memo
    cases idle id _ waiting
  · exact fun id pid waiting => (unheard rfl rfl waiting).elim
  · exact serial.tended
  · intro id member
    obtain ⟨standing, found, minding⟩ := serial.background id member
    exact ⟨standing, by rw [stage?_begin_of_lt (lt_of_stage? found), found], minding⟩
  · exact fun id tasks waiting => (unheard rfl rfl waiting).elim
  · intro next standing pid live
    cases (stands.begin call).unique standing
    refine .inl ((serial.live phase stands pid live).resolve_right ?_)
    rintro ⟨id, waiting⟩
    cases idle id _ waiting

end IsSerial

/-- Between turns one call is made where no other is unfinished, or none is made and none is
cancelled. -/
theorem receive_of_allows {event : Event} (happens : session.mover (.event event) = none)
    (allowed : session.Allows (.event event)) :
    (∃ stage, stage.isCall ∧ session.IsIdle ∧ session.receive event = session.begin stage) ∨
      Step none session (session.receive event) ∧
        (session.receive event).tasks = session.tasks := by
  cases event with
  | start enters => exact .inl ⟨_, rfl, allowed, rfl⟩
  | stop => exact .inl ⟨_, rfl, allowed, rfl⟩
  | evaluate form input => exact .inl ⟨_, rfl, allowed, rfl⟩
  | cancel id => exact allowed.elim
  | discardDirectory =>
      have quiet := quiet_discardDirectory session
      exact .inr ⟨.quiet quiet, quiet.tasks⟩
  | writeErrors pid octets =>
      exact .inr ⟨.develop pid _ (Process.writeErrors_continues octets), rfl⟩
  | closeErrors pid =>
      exact .inr ⟨.develop pid _ Process.closeErrors_continues, rfl⟩
  | writeOutput pid octets =>
      exact .inr ⟨.develop pid _ fun _ => .of_errors rfl rfl rfl rfl, rfl⟩
  | closeOutput pid =>
      exact .inr ⟨.develop pid _ fun _ => .of_errors rfl rfl rfl rfl, rfl⟩
  | breakErrors pid error =>
      exact .inr ⟨.develop pid _ (Process.breakErrors_continues error), rfl⟩
  | breakOutput pid error =>
      exact .inr ⟨.develop pid _ fun _ => .of_errors rfl rfl rfl rfl, rfl⟩
  | connect pid =>
      exact .inr ⟨.develop pid _ fun _ => .of_errors rfl rfl rfl rfl, rfl⟩
  | exit pid code => exact .inr ⟨.develop pid _ (Process.exit_continues code), rfl⟩
  | plan plan => exact .inr ⟨.quiet ⟨_, _, _, _, _, rfl, List.suffix_refl _, rfl⟩, rfl⟩
  | planDisk refusal => exact .inr ⟨.quiet ⟨_, _, _, _, _, rfl, List.suffix_refl _, rfl⟩, rfl⟩
  | tick =>
      have idle : session.ready = [] := List.head?_eq_none_iff.mp happens
      rw [receive, tick, idle]
      exact .inr ⟨.quiet (.refl session), rfl⟩

theorem IsSerial.quiet (serial : session.IsSerial) (stands : session.Stands phase)
    (quiet : Quiet session after) : after.IsSerial :=
  serial.step stands (.quiet quiet : Step none session after) fun _ => quiet.tasks

theorem IsSerial.move {move : Move} (serial : session.IsSerial) (stands : session.Stands phase)
    (allowed : session.Allows move) : (session.move move).IsSerial := by
  have steps := move_steps stands.live move
  cases moves : session.mover move with
  | some id =>
      rw [moves] at steps
      refine (Steps.keep IsSerial stands serial ?_ steps).1
      exact fun standing here step => here.step standing step nofun
  | none =>
      cases move with
      | turn id =>
          rw [move_of_idle moves]
          exact serial
      | event event =>
          rcases receive_of_allows moves allowed with
            ⟨stage, call, idle, equal⟩ | ⟨step, tasks⟩
          · have begun : (session.receive event).IsSerial := equal ▸ serial.begin stands idle call
            exact begun.quiet (equal ▸ stands.begin call) (Quiet.wake _)
          · obtain ⟨next, standing, -⟩ := stands.step step
            exact (serial.step stands step fun _ => tasks).quiet standing (Quiet.wake _)

/-- The world stays fair unless something else fails. -/
theorem fair_of_move {move : Move} (fair : session.world.IsFair) (stands : session.Stands phase)
    (allowed : session.Allows move) : (session.move move).world.IsFair := by
  cases moves : session.mover move with
  | some id =>
      obtain ⟨ready, same⟩ := move_eq moves
      let queue := { session with ready := session.ready.erase id }
      have reaches : queue.Reaches (queue.resume id) id := resume_reaches
      rw [same]
      exact reaches.fair fair
  | none =>
      have alters {pid : Pid} {change : Process → Process}
          (role : ∀ process, (change process).isDaemon = process.isDaemon)
          (fault : ∀ process, (change process).errors.fault = process.errors.fault) :
          (session.alterProcess pid change).world.IsFair := fair.alter role fault
      cases move with
      | turn id =>
          rw [move_of_idle moves]
          exact fair
      | event event =>
          change (session.receive event).world.IsFair
          cases event with
          | cancel id => exact allowed.elim
          | discardDirectory =>
              rw [receive, discardDirectory]
              split
              · exact fair
              · split
                · exact fair
                · dsimp only
                  split <;> exact ⟨fair.plans, fair.readable⟩
          | writeErrors pid octets =>
              refine alters (fun _ => rfl) fun process => ?_
              simp only [Stream.write]
              split <;> rfl
          | closeErrors pid => exact alters (fun _ => rfl) fun _ => rfl
          | writeOutput pid octets => exact alters (fun _ => rfl) fun _ => rfl
          | closeOutput pid => exact alters (fun _ => rfl) fun _ => rfl
          | breakErrors pid error =>
              refine ⟨fair.plans, fun process member daemon => ?_⟩
              obtain ⟨earlier, before, same⟩ := List.mem_map.mp member
              split at same
              next number =>
                have known := stands.numbered.process? before
                rw [← same] at daemon
                cases (allowed earlier ((beq_iff_eq.mp number) ▸ known)).symm.trans daemon
              next =>
                rw [← same] at daemon ⊢
                exact fair.readable earlier before daemon
          | breakOutput pid error => exact alters (fun _ => rfl) fun _ => rfl
          | connect pid => exact alters (fun _ => rfl) fun _ => rfl
          | exit pid code => exact alters (fun _ => rfl) fun _ => rfl
          | plan plan =>
              refine ⟨fun fault member => ?_, fair.readable⟩
              rcases List.mem_append.mp member with old | new
              · exact fair.plans fault old
              · cases List.mem_singleton.mp new
                exact allowed
          | planDisk refusal => exact ⟨fair.plans, fair.readable⟩
          | tick =>
              have idle : session.ready = [] := List.head?_eq_none_iff.mp moves
              rw [receive, tick, idle]
              exact fair
          | _ => exact fair

theorem fresh_isSerial (settings : Settings) (tree : Tree) : (fresh settings tree).IsSerial where
  alone := by simp [fresh_stage?]
  wanted := by simp [fresh_stage?]
  memo := nofun
  halts := by simp [fresh_stage?]
  tended := nofun
  background := nofun
  released := by simp [fresh_stage?]
  live := by
    rintro phase stands pid ⟨process, found, -⟩
    cases found

end Serial

end Session

end EmacsSession
