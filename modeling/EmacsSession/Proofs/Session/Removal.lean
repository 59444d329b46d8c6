/-
This file shows for which daemons that are alive the removal of the init directory is not refused.
-/

import EmacsSession.Proofs.Session.Coexistence

namespace EmacsSession

/-- A daemon of this number is alive that was spawned with this init directory. -/
def World.Inhabits (world : World) (pid : Pid) (directory : Path) : Prop :=
  ∃ process, world.process? pid = some process ∧ process.role = .daemon directory ∧
    process.exitCode = none

theorem World.hasLiveDaemon_iff {world : World} {pid : Pid} :
    world.HasLiveDaemon pid ↔ ∃ directory, world.Inhabits pid directory := by
  constructor
  · rintro ⟨process, found, daemon, alive⟩
    cases role : process.role with
    | daemon directory => exact ⟨directory, process, found, role, alive⟩
    | client =>
        rw [Process.isDaemon, role] at daemon
        cases daemon
  · rintro ⟨directory, process, found, role, alive⟩
    exact ⟨process, found, by rw [Process.isDaemon, role], alive⟩

theorem Disk.discardDirectory_fault {disk : Disk} {path : Path} {fault : Fault}
    (fails : (disk.discardDirectory path).1 = .error fault) : ∃ error, fault = .system error := by
  rw [discardDirectory] at fails
  split at fails
  · cases fails
    exact ⟨_, rfl⟩
  · split at fails
    · cases fails
    · cases fails
      exact ⟨_, rfl⟩

namespace Session

/-- The removal of the init directory is refused because of the daemon, and nothing changes. -/
def IsSpared (session : Session) : Prop :=
  session.discardDirectory = (.error (.removalRefused session.handle.settings.name), session)

/-- An attempt has failed, and waits for the end of this process before it tells. -/
def IsCondemned (session : Session) (pid : Pid) : Prop :=
  ∃ id fault, session.stage? id = some (.awaitEnd pid fault)

/-- The init directory of a daemon that is alive is not spared. -/
def Strands (session : Session) (pid : Pid) : Prop :=
  (∃ directory, session.world.Inhabits pid directory) ∧ ¬ session.IsSpared

section Removal

variable {session after : Session} {phase : Phase} {mover : Option TaskId} {pid : Pid}

theorem isSpared_iff : session.IsSpared ↔
    session.handle.status = .starting ∨ session.handle.status = .running := by
  rw [IsSpared, discardDirectory]
  split
  next guarded => simpa using guarded
  next free =>
    refine iff_of_false (fun spared => ?_) (by simpa using free)
    have refused := congrArg Prod.fst spared
    split at refused
    next => cases refused
    next directory _ =>
      generalize discards : session.world.disk.discardDirectory directory = discarded at refused
      obtain ⟨result, disk⟩ := discarded
      cases result with
      | ok nothing => cases refused
      | error fault =>
          obtain ⟨error, rfl⟩ := Disk.discardDirectory_fault (congrArg Prod.fst discards)
          cases refused

theorem used_of_step (stands : session.Stands phase) (step : Step mover session after)
    (used : session.handle.status ≠ .idle) : after.handle.status ≠ .idle := by
  rcases shift_of_step stands step with ⟨-, same⟩ | ⟨status, shift⟩
  · rwa [same]
  · rw [shift.now]
    rcases shift.allowed with same | leads
    · exact same ▸ used
    · generalize session.handle.status = before at leads
      cases leads <;> nofun

/-- The process of a phase is a daemon, and is alive until it has exited. -/
theorem Stands.live_of_follow (stands : session.Stands phase) (own : phase.pid? = some pid)
    (moves : List Move) (alive : (session.follow moves).hasExited pid = false) :
    (session.follow moves).world.HasLiveDaemon pid := by
  obtain ⟨process, found, daemon⟩ := stands.daemon own
  obtain ⟨later, there, made⟩ := daemon_of_follow stands found daemon moves
  refine ⟨later, there, made, ?_⟩
  rw [hasExited, World.hasExited, World.exitCode?, there] at alive
  simpa using alive

theorem isCondemned_iff (stands : session.Stands phase) :
    session.IsCondemned pid ↔ ∃ id, phase = .failing id pid := by
  constructor
  · rintro ⟨id, fault, waits⟩
    exact ⟨id, stands.eq_of_stage? waits rfl⟩
  · rintro ⟨id, rfl⟩
    have unfinished : session.phase? id = some (.failing id pid) := by
      rw [stands.attempts]
      exact if_pos rfl
    obtain ⟨stage, found, own⟩ := Option.bind_eq_some_iff.mp unfinished
    cases stage <;> cases own
    exact ⟨id, _, found⟩

/-- A daemon that ran is used from then on. -/
theorem IsDismissed.used {moves : List Move} (stands : session.Stands phase)
    (dismissed : session.IsDismissed moves pid) :
    (session.follow moves).handle.status ≠ .idle := by
  obtain ⟨before, move, after, id, rfl, runs, -⟩ := dismissed
  obtain ⟨middle, standing⟩ := stands.follow before
  rw [follow_append]
  exact (follow_keep (fun later => later.handle.status ≠ .idle) standing
    (by rw [runs.1]; nofun) (fun stands used step => used_of_step stands step used) _).1

theorem IsDismissed.live {moves : List Move} (stands : session.Stands phase)
    (dismissed : session.IsDismissed moves pid)
    (alive : (session.follow moves).hasExited pid = false) :
    (session.follow moves).world.HasLiveDaemon pid := by
  obtain ⟨before, move, after, id, rfl, runs, -⟩ := dismissed
  obtain ⟨middle, standing⟩ := stands.follow before
  rw [follow_append] at alive ⊢
  exact (runs.stands standing).live_of_follow rfl _ alive

theorem fresh_not_hasLiveDaemon (settings : Settings) (tree : Tree) (pid : Pid) :
    ¬ (fresh settings tree).world.HasLiveDaemon pid := by
  rintro ⟨process, found, -⟩
  cases found

end Removal

/-- In every run, the removal of the init directory is refused while a daemon is alive, unless the
daemon counts as stopped already: it was dismissed, or its attempt has failed, and it has not ended
since. -/
theorem strands_iff (settings : Settings) (tree : Tree) (moves : List Move) (pid : Pid) :
    ((fresh settings tree).follow moves).Strands pid ↔
      ((fresh settings tree).follow moves).handle.status = .stopped ∧
        ((fresh settings tree).IsDismissed moves pid ∨
          ((fresh settings tree).follow moves).IsCondemned pid) ∧
        ((fresh settings tree).follow moves).hasExited pid = false := by
  have start := fresh_stands settings tree
  obtain ⟨phase, stands⟩ := start.follow moves
  rw [Strands, ← World.hasLiveDaemon_iff, isSpared_iff, not_or]
  constructor
  · rintro ⟨live, notStarting, notRunning⟩
    have stopped (used : ((fresh settings tree).follow moves).handle.status ≠ .idle) :
        ((fresh settings tree).follow moves).handle.status = .stopped := by
      cases status : ((fresh settings tree).follow moves).handle.status with
      | stopped => rfl
      | idle => exact absurd status used
      | starting => exact absurd status notStarting
      | running => exact absurd status notRunning
    have none := fresh_not_hasLiveDaemon settings tree
    rcases accountsWith_of_follow start none moves phase stands pid live with own | dismissed
    · have permits := stands.status
      cases phase with
      | failing id other =>
          cases own
          have condemned := (isCondemned_iff stands).mpr ⟨id, rfl⟩
          exact ⟨permits, .inr condemned, live.not_hasExited⟩
      | spawning id other => exact absurd permits notStarting
      | waking id other => exact absurd permits notStarting
      | running other => exact absurd permits notRunning
      | resting => cases own
      | asked id => cases own
    · exact ⟨stopped (dismissed.used start), .inl dismissed, live.not_hasExited⟩
  · rintro ⟨stopped, dismissed | condemned, alive⟩
    · exact ⟨dismissed.live start alive, by rw [stopped]; nofun, by rw [stopped]; nofun⟩
    · obtain ⟨id, rfl⟩ := (isCondemned_iff stands).mp condemned
      exact ⟨stands.live_of_follow rfl [] alive, by rw [stopped]; nofun, by rw [stopped]; nofun⟩

/-- A caller asks for the daemon to stop, whose process goes on. -/
def lingering : List Move :=
  sampleIgnorance :: sampleStart 0 1001 ++ [.event .stop, .turn 4]

/-- The init directory of a daemon that is alive can be removed. -/
theorem not_forall_spared : ¬ ∀ moves pid directory,
    (sample.follow moves).world.Inhabits pid directory →
      (sample.follow moves).handle.initDirectory = some directory →
        (sample.follow moves).discardDirectory.1 ≠ .ok () := by
  intro claim
  exact claim lingering 1001 _ ⟨_, rfl, rfl, rfl⟩ rfl rfl

end Session

end EmacsSession
