/-
This file shows when the background tasks of a running daemon are in place.
-/

import EmacsSession.Proofs.Session.Frame

namespace EmacsSession.Session

/-- Every background task that looks after the daemon's process is one of the handle's, or is to be
cancelled. -/
def Minds (session : Session) : Prop :=
  ∀ id stage pid, session.stage? id = some stage → stage.charge? = some pid →
    session.handle.process = some pid →
    id ∈ session.handle.background ∨ session.isFlagged id

/-- A caller waits for the end of each background task that is to be cancelled. -/
def Awaits (session : Session) : Prop :=
  ∀ id stage, session.stage? id = some stage → stage.charge?.isSome → session.isFlagged id →
    ∃ other tasks, session.stage? other = some (.awaitBackground tasks) ∧ id ∈ tasks

/-- The background tasks of a process are in place: the handle has both, its exit is watched for by
one that is not to be cancelled, and its diagnostics are forwarded up to their end by one that is
not to be cancelled either. -/
structure TendedBy (session : Session) (pid : Pid) (relay watch : TaskId) : Prop where
  background : session.handle.background = [relay, watch]
  watches : session.stage? watch = some (.watch pid)
  steady : session.isFlagged watch = false
  forwards : (∃ diagnostics, session.stage? relay = some (.relay pid diagnostics)) ∨
    (∃ ending, session.stage? relay = some (.ended ending) ∧ ending ≠ .cancelled) ∧
      session.world.IsOver pid
  lasting : session.isFlagged relay = false

/-- The background tasks of a process are in place. -/
def IsTended (session : Session) (pid : Pid) : Prop :=
  ∃ relay watch, session.TendedBy pid relay watch

/-- The background tasks of a running daemon are in place unless the handle gave them up. -/
def Keeps (session : Session) : Prop :=
  ∀ pid, session.handle.status = .running → session.handle.process = some pid →
    session.handle.background ≠ [] → session.IsTended pid

section Background

variable {session after : Session} {phase : Phase} {mover : Option TaskId} {id : TaskId}
  {stage : Stage} {pid : Pid}

/-- A background task was there before a step, unless the daemon has become ready by it. -/
theorem charge_of_step (step : Step mover session after) (here : after.stage? id = some stage)
    (looks : stage.charge? = some pid) :
    (∃ earlier, session.stage? id = some earlier ∧ earlier.charge? = some pid) ∨
      session.tasks.length ≤ id ∧ id ∈ after.handle.background ∧ ∃ attempt readiness diagnostics,
        session.stage? attempt = some (.awaitReady pid readiness) ∧
          after = session.becomeReady attempt pid diagnostics := by
  cases arrival_of_step step here with
  | stay before => exact .inl ⟨stage, before, looks⟩
  | proceed moves before proceeds =>
      cases proceeds with
      | relay => exact .inl ⟨_, before, looks⟩
      | evaluate evaluation still =>
          rw [Stage.charge?_of_isEvaluation still] at looks
          cases looks
      | _ => cases looks
  | call new nobody call =>
      rw [Stage.charge?_of_isCall call] at looks
      cases looks
  | attempt new => cases looks
  | attend new given found same attends =>
      cases looks.symm.trans attends
      exact .inr ⟨new, given, _, _, _, found, same⟩

/-- The daemon has its process from the moment on at which the pipes of that are there. -/
theorem process_of_step (step : Step mover session after)
    (current : after.handle.process = some pid) :
    session.handle.process = some pid ∨
      ∃ attempt, session.stage? attempt = some (.awaitSpawn pid) := by
  cases step with
  | quiet quiet =>
      obtain ⟨_, _, _, _, _, rfl, -, -⟩ := quiet
      exact .inl current
  | leave => exact .inl (by simpa using current)
  | abandon => exact .inl (by simpa using current)
  | @attach _ id other found =>
      cases current
      exact .inr ⟨id, found⟩
  | abort => cases current
  | notice => cases current
  | dismiss =>
      rw [moveTo_handle, dismiss_handle] at current
      cases current
  | release =>
      rw [moveTo_handle, releaseBackground_handle] at current
      exact .inl current
  | _ => exact .inl current

/-- A background task that is the handle's or to be cancelled stays so until another daemon has
become ready. -/
theorem Tending.minds (tending : Tending mover session after)
    (found : session.stage? id = some stage) (looks : stage.charge? = some pid)
    (minded : id ∈ session.handle.background ∨ session.isFlagged id)
    (still : ∀ attempt other readiness,
      session.stage? attempt ≠ some (.awaitReady other readiness)) :
    id ∈ after.handle.background ∨ after.isFlagged id := by
  cases tending with
  | keep background running flags =>
      rwa [background, flags id stage found (Stage.isCaller_of_charge? looks)]
  | take moves ready equal => exact absurd ready (still _ _ _)
  | release moves waiting exited equal =>
      subst equal
      right
      rw [isFlagged_moveTo, isFlagged_releaseBackground, found]
      rcases minded with member | flagged
      · simp [member, Stage.ending?_of_charge? looks]
      · simp [flagged]

theorem Minds.step (minds : session.Minds) (stands : session.Stands phase)
    (step : Step mover session after) : after.Minds := by
  intro id stage pid here looks current
  rcases charge_of_step step here looks with ⟨earlier, before, same⟩ | ⟨-, given, -⟩
  · have old := (stands.charges id earlier pid before same).2
    rcases process_of_step step current with process | ⟨attempt, spawning⟩
    · refine (tending_of_step step).minds before same (minds id earlier pid before same process) ?_
      intro attempt other readiness ready
      cases stands.eq_of_stage? ready rfl
      cases stands.process.symm.trans process
      exact old rfl
    · have young := stands.eq_of_stage? spawning rfl
      subst young
      exact absurd rfl old
  · exact .inl given

theorem Awaits.step (awaits : session.Awaits) (step : Step mover session after) :
    after.Awaits := by
  intro id stage here looks flagged
  obtain ⟨pid, charge⟩ := Option.isSome_iff_exists.mp looks
  rcases charge_of_step step here charge with ⟨earlier, before, same⟩ | ⟨new, -, ready⟩
  · have own := Stage.isCaller_of_charge? same
    have going := Stage.ending?_of_charge? same
    have still (marked : session.isFlagged id) : ∃ other tasks,
        after.stage? other = some (.awaitBackground tasks) ∧ id ∈ tasks := by
      obtain ⟨other, tasks, waiting, inside⟩ := awaits id earlier before (by rw [same]; rfl) marked
      refine ⟨other, tasks, (awaitBackground_of_step step waiting).resolve_right fun finished => ?_,
        inside⟩
      have ended := List.all_eq_true.mp finished.1 id inside
      rw [hasEnded, ending?, before, Option.bind_some, going] at ended
      cases ended
    cases tending_of_step step with
    | keep background running flags => exact still (flags id earlier before own ▸ flagged)
    | take moves found equal =>
        subst equal
        exact still (isFlagged_becomeReady (lt_of_stage? found) flagged)
    | @release first other moves found exited equal =>
        subst equal
        rw [isFlagged_moveTo, isFlagged_releaseBackground, Bool.or_eq_true] at flagged
        rcases flagged with marked | given
        · exact still marked
        · have member : id ∈ session.handle.background := by
            simpa using (Bool.and_eq_true_iff.mp given).1
          exact ⟨first, session.handle.background, stage?_release found, member⟩
  · obtain ⟨attempt, readiness, diagnostics, found, equal⟩ := ready
    subst equal
    have old := lt_of_isFlagged (isFlagged_becomeReady (lt_of_stage? found) flagged)
    exact absurd old (Nat.not_lt.mpr new)

/-- A daemon that has become ready is tended. -/
theorem tended_of_ready {attempt : TaskId} {readiness : Readiness} (diagnostics : Diagnostics)
    (found : session.stage? attempt = some (.awaitReady pid readiness)) :
    (session.becomeReady attempt pid diagnostics).TendedBy pid session.tasks.length
      (session.tasks.length + 1) := by
  have present := lt_of_stage? found
  have tasks := becomeReady_tasks session attempt pid diagnostics present
  have fresh (id : TaskId) (new : session.tasks.length ≤ id) :
      (session.becomeReady attempt pid diagnostics).isFlagged id = false := by
    by_contra flagged
    have old := isFlagged_becomeReady present (by simpa using flagged)
    exact absurd (lt_of_isFlagged old) (Nat.not_lt.mpr new)
  have relays : ((session.moveTo attempt (.ended (.returned none))).begin
      (.relay pid diagnostics)).stage? session.tasks.length = some (.relay pid diagnostics) := by
    have begun := @stage?_begin_self (session.moveTo attempt (.ended (.returned none)))
      (.relay pid diagnostics)
    rwa [moveTo_length] at begun
  refine ⟨rfl, ?_, fresh _ (Nat.le_succ _), .inl ⟨diagnostics, ?_⟩, fresh _ (Nat.le_refl _)⟩
  · have begun := @stage?_begin_self ((session.moveTo attempt (.ended (.returned none))).begin
      (.relay pid diagnostics)) (.watch pid)
    rw [begin_tasks, List.length_append, moveTo_length, List.length_singleton] at begun
    rwa [stage?_of_tasks tasks]
  · rw [stage?_of_tasks tasks, stage?_begin_of_lt (lt_of_stage? relays), relays]

/-- The background tasks stay in place while the handle and the daemon keep them and the process. -/
theorem TendedBy.step {relay watch : TaskId} (tended : session.TendedBy pid relay watch)
    (stands : session.Stands phase) (step : Step mover session after)
    (process : session.handle.process = some pid) (current : after.handle.process = some pid)
    (background : after.handle.background = session.handle.background)
    (flags : ∀ id stage, session.stage? id = some stage → stage.isCaller = false →
      after.isFlagged id = session.isFlagged id) : after.TendedBy pid relay watch where
  background := background.trans tended.background
  watches := watch_of_step step tended.watches tended.steady process current
  steady := (flags watch _ tended.watches rfl).trans tended.steady
  forwards := by
    rcases tended.forwards with ⟨diagnostics, relaying⟩ | ⟨⟨ending, ended, own⟩, finished⟩
    · rcases relay_of_step step relaying tended.lasting with still | ⟨ends, finished⟩
      · exact .inl still
      · exact .inr ⟨ends, isOver_of_step stands step finished⟩
    · exact .inr ⟨⟨ending, ended_of_step step ended, own⟩, isOver_of_step stands step finished⟩
  lasting := by
    rcases tended.forwards with ⟨diagnostics, relaying⟩ | ⟨⟨ending, ended, own⟩, finished⟩
    · exact (flags relay _ relaying rfl).trans tended.lasting
    · exact (flags relay _ ended rfl).trans tended.lasting

theorem Keeps.step (keeps : session.Keeps) (stands : session.Stands phase)
    (step : Step mover session after) : after.Keeps := by
  intro pid running current given
  cases tending_of_step step with
  | keep background before flags =>
      have ran := before running
      have process : session.handle.process = some pid := by
        apply (process_of_step step current).resolve_right
        rintro ⟨attempt, spawning⟩
        obtain ⟨other, runs, -⟩ := stands.running ran
        cases runs.symm.trans (stands.eq_of_stage? spawning rfl)
      obtain ⟨relay, watch, tended⟩ := keeps pid ran process (background ▸ given)
      exact ⟨relay, watch, tended.step stands step process current background flags⟩
  | take moves found equal =>
      subst equal
      have waking := stands.eq_of_stage? found rfl
      subst waking
      cases stands.process.symm.trans current
      exact ⟨_, _, tended_of_ready _ found⟩
  | release moves found exited equal =>
      subst equal
      rw [moveTo_handle, releaseBackground_handle] at given
      exact absurd rfl given

end Background

section Fresh

variable (settings : Settings) (tree : Tree)

theorem fresh_minds : (fresh settings tree).Minds := by
  intro id stage pid found
  rw [fresh_stage?] at found
  cases found

theorem fresh_awaits : (fresh settings tree).Awaits := by
  intro id stage found
  rw [fresh_stage?] at found
  cases found

theorem fresh_keeps : (fresh settings tree).Keeps := by
  intro pid running
  cases running

end Fresh

end EmacsSession.Session
