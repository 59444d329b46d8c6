/-
This file shows in which state a daemon is when a call that asks for it to run has failed.
-/

import EmacsSession.Proofs.Session.Scope

namespace EmacsSession

/-- Why a spawn does not succeed, if it does not. -/
def Plan.fault? : Plan → Option Fault
  | .refused error => some (.system error)
  | .unfit fault => some fault
  | .spawned _ => none

/-- The stages of an attempt that has gone on from its beginning. -/
def Stage.isUnderway : Stage → Bool
  | .awaitSpawn _ | .awaitReady _ _ | .awaitCode _ | .awaitEnd _ _ | .ended _ => true
  | _ => false

theorem Stage.isYielding_of_isUnderway {stage : Stage} (underway : stage.isUnderway) :
    stage.isYielding = false := by
  cases stage <;> first | rfl | cases underway

theorem Stage.isEvaluation_of_isUnderway {stage : Stage} (underway : stage.isUnderway) :
    stage.isEvaluation = false := by
  cases stage <;> first | rfl | cases underway

/-- The stages of an attempt that has failed. -/
def Stage.isFailure : Stage → Bool
  | .awaitEnd _ _ | .ended (.failed _) => true
  | _ => false

namespace Session

/-- Why an attempt that begins now gets no process, if it gets none: there is no init directory and
none can be made, or the process is not spawned. -/
def obstacle? (session : Session) : Option Fault :=
  match session.handle.initDirectory,
    (session.world.disk.makeInitDirectory session.handle.settings.root).1 with
  | none, .error fault => some fault
  | _, _ => session.world.plans.head?.bind Plan.fault?

/-- By this move the attempt goes on from its beginning, and gets no process for a reason other than
a refusal of the operating system. -/
def Trips (session : Session) (move : Move) (attempt : TaskId) : Prop :=
  session.mover move = some attempt ∧ session.stage? attempt = some .attempt ∧
    ∃ fault, session.obstacle? = some fault ∧ ∀ error, fault ≠ .system error

/-- In a run the attempt got no process for a reason other than a refusal of the operating
system. -/
def IsTrippedUp (session : Session) (moves : List Move) (attempt : TaskId) : Prop :=
  ∃ before move after, moves = before ++ move :: after ∧
    (session.follow before).Trips move attempt

/-- Since the attempt has ended no other one has gone on. -/
def IsLatest (session : Session) (moves : List Move) (attempt : TaskId) : Prop :=
  ∀ earlier move later other, moves = earlier ++ move :: later →
    (session.follow earlier).hasEnded attempt → (session.follow earlier).mover move = some other →
      ¬ (session.follow earlier).isAttempting other

/-- The attempt that a caller waits for that is heard now: the one that is remembered, or else the
one that begins. -/
def pursued (session : Session) : TaskId :=
  session.handle.attempt.getD session.tasks.length

/-- In a run the attempt was unfinished at some moment. -/
def HasTried (session : Session) (moves : List Move) (attempt : TaskId) : Prop :=
  ∃ earlier later, moves = earlier ++ later ∧ (session.follow earlier).isAttempting attempt

/-- Nothing of an attempt is left. -/
structure IsUndone (session : Session) (attempt : TaskId) : Prop where
  stopped : session.handle.status = .stopped
  released : session.handle.process = none
  exited : ∀ badge ∈ session.books.workersOf attempt, session.hasExited badge.pid
  removable : ¬ session.IsSpared

/-- The daemon counts as starting although nothing starts it, and its init directory cannot be
removed. -/
structure IsHalfStarted (session : Session) : Prop where
  starting : session.handle.status = .starting
  released : session.handle.process = none
  spared : session.IsSpared

/-- What is left at the end of a run of an attempt that has failed. -/
structure HasFailed (session : Session) (moves : List Move) (attempt : TaskId) (fault : Fault) :
    Prop where
  /-- The attempt has failed with this fault. -/
  ended : (session.follow moves).ending? attempt = some (.failed fault)
  /-- No daemon that the attempt has spawned is alive. -/
  exited : ∀ badge ∈ (session.follow moves).books.workersOf attempt,
    (session.follow moves).hasExited badge.pid
  /-- Nothing of the attempt is left exactly if it was not tripped up. -/
  undone : session.IsLatest moves attempt →
    ((session.follow moves).IsUndone attempt ↔ ¬ session.IsTrippedUp moves attempt)
  /-- An attempt that was tripped up leaves the daemon half started. -/
  tripped : session.IsLatest moves attempt → session.IsTrippedUp moves attempt →
    (session.follow moves).IsHalfStarted

section Turns

variable {session after : Session} {phase : Phase} {mover : Option TaskId} {id attempt : TaskId}
  {fault : Fault} {move : Move}

/-- A spawn fails exactly as that is planned. -/
theorem SpawnsAs.eq_error_iff {role : Role} {arguments : List String}
    {input output errors : Connection} {result : Except Fault Pid}
    (spawns : session.SpawnsAs id role arguments input output errors result after) :
    result = .error fault ↔ session.world.plans.head?.bind Plan.fault? = some fault := by
  obtain ⟨severity, message, spawned⟩ := spawns
  have outcome : (session.world.spawn id role arguments).1 = result := congrArg Prod.fst spawned
  rw [← outcome, World.spawn]
  cases session.world.plans.head? with
  | none => simp
  | some plan => cases plan <;> simp [Plan.fault?]

/-- A spawn succeeds only where no other fate is planned. -/
theorem SpawnsAs.unplanned {role : Role} {arguments : List String}
    {input output errors : Connection} {pid : Pid}
    (spawns : session.SpawnsAs id role arguments input output errors (.ok pid) after) :
    session.world.plans.head?.bind Plan.fault? = none :=
  Option.eq_none_iff_forall_ne_some.mpr fun _ planned =>
    nomatch spawns.eq_error_iff.mpr planned

/-- The attempt has gone on from its beginning, and the daemon counts as stopped if the attempt has
failed. -/
def Settles (session : Session) (attempt : TaskId) : Prop :=
  ∃ stage, session.stage? attempt = some stage ∧ stage.isUnderway ∧
    (stage.isFailure → session.handle.status = .stopped)

theorem Settles.step (settles : session.Settles attempt)
    (step : Step (some attempt) session after) : after.Settles attempt := by
  obtain ⟨stage, here, underway, stopped⟩ := settles
  have present := lt_of_stage? here
  cases step with
  | quiet quiet =>
      exact ⟨stage, stage?_of_tasks quiet.tasks ▸ here, underway,
        fun failure => quiet.status.trans (stopped failure)⟩
  | develop pid change continues => exact ⟨stage, here, underway, stopped⟩
  | yield found yielding flagged =>
      cases stage?_inj found here
      cases (Stage.isYielding_of_isUnderway underway).symm.trans yielding
  | attach found => exact ⟨_, stage?_moveTo_self present, rfl, nofun⟩
  | read found taken left follows => exact ⟨_, stage?_moveTo_self present, rfl, nofun⟩
  | close found => exact ⟨_, stage?_moveTo_self present, rfl, nofun⟩
  | ready found setting shown diagnostics =>
      exact ⟨_, stage?_becomeReady_self present, rfl, nofun⟩
  | abort found waking fault => exact ⟨_, stage?_moveTo_self present, rfl, fun _ => rfl⟩
  | fail found exited =>
      cases stage?_inj found here
      exact ⟨_, stage?_moveTo_self present, rfl, fun _ => stopped rfl⟩
  | evaluate found evaluation goes alter moves =>
      cases stage?_inj found here
      cases (Stage.isEvaluation_of_isUnderway underway).symm.trans evaluation
  | _ =>
      cases stage?_inj (‹session.stage? attempt = some _›) here
      cases underway

theorem Settles.steps (settles : session.Settles attempt)
    (steps : Steps (some attempt) session after) : after.Settles attempt := by
  induction steps with
  | refl => exact settles
  | tail _ step inductionHypothesis => exact inductionHypothesis.step step

theorem Settles.stopped (settles : session.Settles attempt)
    (failed : session.stage? attempt = some (.ended (.failed fault))) :
    session.handle.status = .stopped := by
  obtain ⟨stage, here, -, stopped⟩ := settles
  cases stage?_inj here failed
  exact stopped rfl

/-- How an attempt goes on from its beginning: it fails, or waits for the pipes of a process. -/
inductive Departs (session : Session) (id : TaskId) (after : Session) : Prop
  | refused {error : SystemError} {fault : Fault}
      (obstacle : session.obstacle? = some (.system error))
      (ended : after.stage? id = some (.ended (.failed fault)))
      (stopped : after.handle.status = .stopped)
  | unfit {fault : Fault} (obstacle : session.obstacle? = some fault)
      (odd : ∀ error, fault ≠ .system error)
      (ended : after.stage? id = some (.ended (.failed fault)))
      (starting : after.handle.status = .starting)
  | hired (free : session.obstacle? = none) (settles : after.Settles id)

/-- An attempt that has its init directory gets a process unless another fate is planned for it. -/
theorem departs_of_launch {prepared : Session} {directory : Path}
    (present : id < session.tasks.length) (tasks : prepared.tasks = session.tasks)
    (starting : prepared.handle.status = .starting)
    (obstacle : session.obstacle? = prepared.world.plans.head?.bind Plan.fault?) :
    session.Departs id (prepared.launch id directory) := by
  have here {tried : Session} (same : tried.tasks = prepared.tasks) : id < tried.tasks.length := by
    rwa [same, tasks]
  cases launch_launches prepared id directory with
  | refused spawns runs =>
      rw [runs]
      exact .refused (obstacle.trans (spawns.eq_error_iff.mp rfl))
        (stage?_moveTo_self (here spawns.tasks)) rfl
  | unfit spawns odd runs =>
      rw [runs]
      refine .unfit (obstacle.trans (spawns.eq_error_iff.mp rfl)) odd
        (stage?_moveTo_self (here spawns.tasks)) ?_
      rw [finish_eq_moveTo, moveTo_handle, spawns.handle, starting]
  | @hired pid tried spawns runs =>
      have waits : (tried.moveTo id (.awaitSpawn pid)).Settles id :=
        ⟨_, stage?_moveTo_self (here spawns.tasks), rfl, nofun⟩
      rw [runs]
      exact .hired (obstacle.trans spawns.unplanned)
        (waits.steps (attach_steps (here spawns.tasks)))

theorem runAttempt_departs (present : id < session.tasks.length) :
    session.Departs id (session.runAttempt id) := by
  cases runAttempt_attempts session id with
  | reuses current runs =>
      rw [runs]
      exact departs_of_launch present rfl rfl (by rw [obstacle?, current]; rfl)
  | makes vacant made runs =>
      rw [runs]
      exact departs_of_launch present rfl rfl (by rw [obstacle?, vacant, made]; rfl)
  | refused vacant made runs =>
      rw [runs]
      exact .refused (by rw [obstacle?, vacant, made]) (stage?_moveTo_self present) rfl
  | unfit vacant made odd runs =>
      rw [runs]
      exact .unfit (by rw [obstacle?, vacant, made]) odd (stage?_moveTo_self present) rfl

/-- The turn in which an attempt goes on from its beginning. -/
theorem departs_of_move (moves : session.mover move = some attempt)
    (begins : session.stage? attempt = some .attempt) :
    session.Departs attempt (session.move move) := by
  obtain ⟨ready, same⟩ := move_eq moves
  let queue := { session with ready := session.ready.erase attempt }
  have standing : queue.stage? attempt = some .attempt := begins
  have resumes : queue.resume attempt = queue.runAttempt attempt := by
    rw [resume_of_stage standing]
    split <;> rfl
  have present : attempt < queue.tasks.length := lt_of_stage? standing
  rw [same, resumes]
  cases runAttempt_departs present with
  | refused obstacle ended stopped => exact .refused obstacle ended stopped
  | unfit obstacle odd ended starting => exact .unfit obstacle odd ended starting
  | hired free settles => exact .hired free settles

/-- A turn of an attempt that went on from its beginning before. -/
theorem settles_of_move {stage : Stage} (stands : session.Stands phase)
    (moves : session.mover move = some attempt) (found : session.stage? attempt = some stage)
    (own : stage.isAttempt) (later : stage ≠ .attempt) : (session.move move).Settles attempt := by
  have settles : session.Settles attempt := by
    refine ⟨stage, found, ?_, fun failure => ?_⟩
    · cases stage <;> first | rfl | exact absurd rfl later | cases own
    · cases stage with
      | awaitEnd pid fault =>
          cases stands.eq_of_stage? found rfl
          exact stands.status
      | ended ending => cases own
      | _ => cases failure
  have steps := move_steps stands.live move
  rw [moves] at steps
  exact settles.steps steps

theorem Trips.failed (trips : session.Trips move attempt) :
    ∃ fault, (session.move move).stage? attempt = some (.ended (.failed fault)) := by
  obtain ⟨moves, begins, fault, obstacle, odd⟩ := trips
  cases departs_of_move moves begins with
  | refused same ended stopped => exact ⟨_, ended⟩
  | unfit same other ended starting => exact ⟨_, ended⟩
  | hired free settles => cases free.symm.trans obstacle

/-- How an attempt that has failed has left the daemon: it counts as starting if the attempt was
tripped up, and else as stopped. -/
def IsHalted (session : Session) (tripped : Prop) : Prop :=
  tripped ∧ session.handle.status = .starting ∨ ¬ tripped ∧ session.handle.status = .stopped

theorem IsHalted.not_running {tripped : Prop} (left : session.IsHalted tripped) :
    session.handle.status ≠ .running := by
  rcases left with ⟨-, same⟩ | ⟨-, same⟩ <;> rw [same] <;> nofun

theorem IsHalted.congr {tripped other : Prop} (left : session.IsHalted tripped)
    (equal : other ↔ tripped) (same : after.handle.status = session.handle.status) :
    after.IsHalted other := by
  rwa [IsHalted, equal, same]

/-- The turn by which an attempt fails. -/
theorem isHalted_of_failing (stands : session.Stands phase)
    (attempting : session.isAttempting attempt) (moves : session.mover move = some attempt)
    (failed : (session.move move).stage? attempt = some (.ended (.failed fault))) :
    (session.move move).IsHalted (session.Trips move attempt) := by
  obtain ⟨stage, found, own⟩ := isAttempting_iff.mp attempting
  by_cases begins : stage = .attempt
  · subst begins
    cases departs_of_move moves found with
    | refused obstacle ended stopped =>
        refine .inr ⟨?_, stopped⟩
        rintro ⟨-, -, other, same, odd⟩
        cases obstacle.symm.trans same
        exact odd _ rfl
    | unfit obstacle odd ended starting =>
        exact .inl ⟨⟨moves, found, _, obstacle, odd⟩, starting⟩
    | hired free settles =>
        refine .inr ⟨?_, settles.stopped failed⟩
        rintro ⟨-, -, other, same, -⟩
        cases free.symm.trans same
  · have settles := settles_of_move stands moves found own begins
    exact .inr ⟨fun trips => begins (stage?_inj found trips.2.1), settles.stopped failed⟩

/-- A daemon that neither has a process nor runs stays so while no attempt goes on. -/
theorem still_of_step (step : Step mover session after)
    (idle : ∀ id, mover = some id → ¬ session.isAttempting id)
    (released : session.handle.process = none) (halted : session.handle.status ≠ .running) :
    after.handle.process = none ∧ after.handle.status = session.handle.status := by
  have goes {id : TaskId} {stage : Stage} (same : mover = some id)
      (found : session.stage? id = some stage) (own : stage.isAttempt) : False :=
    idle id same (isAttempting_iff.mpr ⟨stage, found, own⟩)
  cases step with
  | quiet quiet =>
      obtain ⟨_, _, _, _, _, rfl, -, -⟩ := quiet
      exact ⟨released, rfl⟩
  | leave found ended passes => simp [released]
  | abandon found flagged => simp [released]
  | enter found => exact (goes rfl found rfl).elim
  | refuse found starting fault => exact (goes rfl found rfl).elim
  | attach found => exact (goes rfl found rfl).elim
  | ready found setting shown diagnostics => exact (goes rfl found rfl).elim
  | @abort _ _ stage pid found waking fault =>
      refine (goes rfl found ?_).elim
      cases stage <;> first | rfl | cases waking
  | notice found exited current => cases released.symm.trans current
  | dismiss found running current message => exact absurd running halted
  | release found exited => simp [released]
  | _ => exact ⟨released, rfl⟩

theorem still_of_move (stands : session.Stands phase)
    (idle : ∀ id, session.mover move = some id → ¬ session.isAttempting id)
    (released : session.handle.process = none) (halted : session.handle.status ≠ .running) :
    (session.move move).handle.process = none ∧
      (session.move move).handle.status = session.handle.status := by
  let holds (later : Session) := (later.handle.process = none ∧
    later.handle.status = session.handle.status) ∧
      ∀ id, session.mover move = some id → ¬ later.isAttempting id
  have kept : holds (session.move move) := by
    refine (Steps.keep holds stands ⟨⟨released, rfl⟩, idle⟩ (fun standing held step => ?_)
      (move_steps stands.live move)).1
    obtain ⟨⟨vacant, same⟩, apart⟩ := held
    obtain ⟨still, equal⟩ := still_of_step step apart vacant (same ▸ halted)
    exact ⟨⟨still, equal.trans same⟩, not_attempting_of_step standing step apart⟩
  exact kept.1

/-- A daemon rests once its attempt has failed. -/
theorem released_of_failing (stands : session.Stands phase)
    (attempting : session.isAttempting attempt)
    (failed : (session.move move).stage? attempt = some (.ended (.failed fault)))
    (halted : (session.move move).handle.status ≠ .running) :
    (session.move move).handle.process = none := by
  obtain ⟨next, standing⟩ := stands.move move
  refine (standing.resting_of_idle halted fun other unfinished => ?_).process
  cases alone_of_move stands attempting unfinished
  exact not_attempting_of_ended failed unfinished

/-- An attempt that is remembered after a move was so before, or is unfinished. -/
theorem memo_of_move (stands : session.Stands phase) (move : Move)
    (memo : (session.move move).handle.attempt = some attempt) :
    session.handle.attempt = some attempt ∨ (session.move move).isAttempting attempt := by
  let holds (later : Session) := later.handle.attempt = some attempt →
    session.handle.attempt = some attempt ∨
      session.mover move ≠ some attempt ∧ later.isAttempting attempt
  have kept : holds (session.move move) := by
    refine (Steps.keep holds stands .inl (fun _ held step memo => ?_)
      (move_steps stands.live move)).1
    rcases attempt_of_step step memo with before | ⟨begun, id, enters, moves, waits⟩
    · rcases held before with first | ⟨apart, attempting⟩
      · exact .inl first
      · exact .inr ⟨apart, (isAttempting_of_step step attempting).resolve_right fun ended =>
          apart ended.1⟩
    · refine .inr ⟨fun same => ?_, isAttempting_iff.mpr ⟨.attempt, begun, rfl⟩⟩
      cases moves.symm.trans same
      cases stage?_inj begun waits
  exact (kept memo).imp_right And.right

end Turns

section Runs

variable {session : Session} {phase : Phase} {id attempt : TaskId} {fault : Fault}
  {moves : List Move} {move : Move}

theorem HasTried.append (tried : session.HasTried moves attempt) (more : List Move) :
    session.HasTried (moves ++ more) attempt := by
  obtain ⟨earlier, later, rfl, attempting⟩ := tried
  exact ⟨earlier, later ++ more, List.append_assoc _ _ _, attempting⟩

/-- An attempt that was unfinished at some moment is so, or has ended. -/
theorem HasTried.fate (tried : session.HasTried moves attempt) (stands : session.Stands phase) :
    (session.follow moves).isAttempting attempt ∨
      ∃ ending, (session.follow moves).stage? attempt = some (.ended ending) := by
  obtain ⟨earlier, later, rfl, attempting⟩ := tried
  obtain ⟨next, standing⟩ := stands.follow earlier
  rw [follow_append]
  let holds (later : Session) := later.isAttempting attempt ∨
    ∃ ending, later.stage? attempt = some (.ended ending)
  refine keep_of_moves holds standing (.inl attempting) (fun stands held move => ?_) later
  rcases held with unfinished | ⟨ending, ended⟩
  · exact (isAttempting_of_move stands unfinished move).imp_right
      fun ⟨ending, ended, _⟩ => ⟨ending, ended⟩
  · exact .inr ⟨ending, ended_of_follow stands ended [move]⟩

/-- An attempt that has ended after a run was unfinished before the last move of it. -/
theorem HasTried.init (tried : session.HasTried (moves ++ [move]) attempt)
    (failed : (session.follow (moves ++ [move])).stage? attempt = some (.ended (.failed fault))) :
    session.HasTried moves attempt := by
  obtain ⟨earlier, later, split, attempting⟩ := tried
  rcases List.eq_nil_or_concat later with rfl | ⟨others, last, rfl⟩
  · rw [List.append_nil] at split
    rw [split] at failed
    exact absurd attempting (not_attempting_of_ended failed)
  · rw [List.concat_eq_append, ← List.append_assoc] at split
    obtain ⟨rfl, -⟩ := List.append_inj' split rfl
    exact ⟨earlier, others, rfl, attempting⟩

theorem hasTried_of_memo (stands : session.Stands phase) (free : session.handle.attempt = none)
    (moves : List Move) (memo : (session.follow moves).handle.attempt = some attempt) :
    session.HasTried moves attempt := by
  induction moves using List.reverseRecOn with
  | nil => cases free.symm.trans memo
  | append_singleton moves move inductionHypothesis =>
      obtain ⟨next, standing⟩ := stands.follow moves
      rw [follow_concat] at memo
      rcases memo_of_move standing move memo with before | attempting
      · exact (inductionHypothesis before).append [move]
      · rw [← follow_concat] at attempting
        exact ⟨moves ++ [move], [], (List.append_nil _).symm, attempting⟩

theorem isTrippedUp_concat (moves : List Move) (last : Move) :
    session.IsTrippedUp (moves ++ [last]) attempt ↔
      session.IsTrippedUp moves attempt ∨ (session.follow moves).Trips last attempt :=
  exists_split_concat

/-- An attempt that was tripped up has ended. -/
theorem IsTrippedUp.failed (tripped : session.IsTrippedUp moves attempt)
    (stands : session.Stands phase) :
    ∃ fault, (session.follow moves).stage? attempt = some (.ended (.failed fault)) := by
  obtain ⟨before, move, after, rfl, trips⟩ := tripped
  obtain ⟨fault, failed⟩ := trips.failed
  obtain ⟨next, standing⟩ := stands.follow before
  obtain ⟨later, there⟩ := standing.move move
  refine ⟨fault, ?_⟩
  rw [follow_append]
  exact ended_of_follow there failed after

theorem IsLatest.init (latest : session.IsLatest (moves ++ [move]) attempt) :
    session.IsLatest moves attempt :=
  fun earlier first later other split =>
    latest earlier first (later ++ [move]) other (by simp [split])

/-- The failure of an attempt leaves the daemon without a process, and in the state that the attempt
has left as long as no other one goes on. -/
theorem isHalted_of_failed (stands : session.Stands phase) (tried : session.HasTried moves attempt)
    (failed : (session.follow moves).stage? attempt = some (.ended (.failed fault)))
    (latest : session.IsLatest moves attempt) : (session.follow moves).handle.process = none ∧
      (session.follow moves).IsHalted (session.IsTrippedUp moves attempt) := by
  induction moves using List.reverseRecOn with
  | nil =>
      obtain ⟨earlier, later, split, attempting⟩ := tried
      obtain ⟨rfl, rfl⟩ := List.append_eq_nil_iff.mp split.symm
      exact absurd attempting (not_attempting_of_ended failed)
  | append_singleton moves move inductionHypothesis =>
      obtain ⟨next, standing⟩ := stands.follow moves
      have before := tried.init failed
      rw [isTrippedUp_concat]
      rcases before.fate stands with attempting | ⟨ending, ended⟩
      · -- The attempt fails by this move.
        rw [follow_concat] at failed ⊢
        have untripped : ¬ session.IsTrippedUp moves attempt := by
          intro tripped
          obtain ⟨other, ended⟩ := tripped.failed stands
          exact not_attempting_of_ended ended attempting
        have moved := mover_of_ending standing attempting (not_attempting_of_ended failed)
        have left := isHalted_of_failing standing attempting moved failed
        exact ⟨released_of_failing standing attempting failed left.not_running,
          left.congr (or_iff_right untripped) rfl⟩
      · -- The attempt had failed before, and what it has left stays.
        rw [follow_concat] at failed ⊢
        cases stage?_inj (ended_of_follow standing ended [move]) failed
        have steady : ¬ (session.follow moves).Trips move attempt := by
          rintro ⟨-, begins, -⟩
          cases stage?_inj ended begins
        obtain ⟨released, left⟩ := inductionHypothesis before ended latest.init
        have already : (session.follow moves).hasEnded attempt := hasEnded_iff.mpr ⟨_, ended⟩
        obtain ⟨still, same⟩ := still_of_move standing
          (fun other => latest moves move [] other rfl already) released left.not_running
        exact ⟨still, left.congr (or_iff_left steady) same⟩

/-- A caller that fails was told of the failure of the attempt that it pursued. -/
theorem failed_of_call {before rest : List Move} (stands : session.Stands phase)
    (free : session.handle.attempt = none) (hears : (session.follow before).HearsStart id move)
    (failed : (session.follow (before ++ move :: rest)).stage? id =
      some (.ended (.failed fault))) :
    session.HasTried (before ++ move :: rest) (session.follow before).pursued ∧
      (session.follow (before ++ move :: rest)).stage? (session.follow before).pursued =
        some (.ended (.failed fault)) := by
  obtain ⟨first, standing⟩ := stands.follow before
  obtain ⟨next, leads⟩ := standing.move move
  have later : session.follow (before ++ move :: rest) =
      ((session.follow before).move move).follow rest := follow_append _ _ _
  have remembered {attempt : TaskId}
      (memo : (session.follow before).handle.attempt = some attempt) :
      (session.follow before).pursued = attempt := by
    rw [pursued, memo]
    rfl
  rw [later] at failed ⊢
  have told {attempt : TaskId} {enters : Bool}
      (waits : ((session.follow before).move move).stage? id =
        some (.awaitAttempt attempt enters))
      (attempting : ((session.follow before).move move).isAttempting attempt) :
      (((session.follow before).move move).follow rest).stage? attempt =
        some (.ended (.failed fault)) := by
    rcases outcome_of_follow leads waits attempting rest failed nofun with
      ⟨other, same, ended⟩ | ⟨text, -, -, same, -⟩
    · cases same
      exact ended
    · cases same
  cases heard_of_move hears with
  | greet running text ends => cases stage?_inj (ended_of_follow leads ends rest) failed
  | tell notRunning memo ended passes ends alone still =>
      rw [remembered memo]
      refine ⟨(hasTried_of_memo stands free before memo).append _, ?_⟩
      cases stage?_inj (ended_of_follow leads ends rest) failed
      cases passes
      exact ended_of_follow standing (ending?_eq_some.mp ended) (move :: rest)
  | join notRunning memo pending waits alone =>
      have tried := hasTried_of_memo stands free before memo
      have attempting := (tried.fate stands).resolve_right fun ⟨ending, ended⟩ =>
        nomatch pending.symm.trans (ending?_eq_some.mpr ended)
      rw [remembered memo]
      exact ⟨tried.append _, told waits (hears.isAttempting standing attempting)⟩
  | ask notRunning unasked waits begun =>
      have new : (session.follow before).pursued = (session.follow before).tasks.length := by
        rw [pursued, unasked]
        rfl
      have attempting := isAttempting_iff.mpr ⟨.attempt, begun, rfl⟩
      rw [new]
      refine ⟨⟨before ++ [move], rest, by simp, ?_⟩, told waits attempting⟩
      rwa [follow_concat]

theorem badges_of_move (registered : session.IsRegistered) (stands : session.Stands phase)
    (move : Move) : session.books.badges ⊆ (session.move move).books.badges := by
  cases moves : session.mover move with
  | some id =>
      obtain ⟨more, badges, -⟩ := badges_of_turn registered stands moves
      rw [badges]
      exact List.subset_append_left _ _
  | none =>
      cases move with
      | turn other => exact (move_of_idle moves).symm ▸ List.Subset.refl _
      | event event => exact (books_receive moves).1.symm ▸ List.Subset.refl _

/-- Processes that were spawned stay in the books. -/
theorem badges_of_follow (registered : session.IsRegistered) (stands : session.Stands phase)
    (moves : List Move) : session.books.badges ⊆ (session.follow moves).books.badges := by
  let holds (later : Session) := later.IsRegistered ∧
    session.books.badges ⊆ later.books.badges
  have kept : holds (session.follow moves) :=
    keep_of_moves holds stands ⟨registered, List.Subset.refl _⟩
      (fun standing ⟨registered, kept⟩ move => ⟨registered.move standing move,
        List.Subset.trans kept (badges_of_move registered standing move)⟩) moves
  exact kept.2

end Runs

section Failures

variable {settings : Settings} {tree : Tree} {moves : List Move} {attempt : TaskId} {fault : Fault}
  {phase : Phase}

/-- The daemons of an attempt that has failed have ended. -/
theorem exited_of_failed
    (failed : ((fresh settings tree).follow moves).stage? attempt =
      some (.ended (.failed fault))) :
    ∀ badge ∈ ((fresh settings tree).follow moves).books.workersOf attempt,
      ((fresh settings tree).follow moves).hasExited badge.pid := by
  intro badge listed
  obtain ⟨own, worker⟩ := List.mem_filter.mp listed
  obtain ⟨member, same⟩ := List.mem_filter.mp own
  obtain rfl : badge.spawner = attempt := by simpa using same
  obtain ⟨process, present, rfl⟩ := List.mem_map.mp member
  by_contra alive
  have start := fresh_stands settings tree
  have registered := fresh_isRegistered settings tree
  obtain ⟨phase, stands⟩ := start.follow moves
  have found : ((fresh settings tree).follow moves).world.process? process.badge.pid =
      some process := stands.numbered.process? present
  have live : ((fresh settings tree).follow moves).world.HasLiveDaemon process.badge.pid := by
    refine ⟨process, found, worker, ?_⟩
    rw [hasExited, World.hasExited, World.exitCode?, found] at alive
    simpa using alive
  have none := fresh_not_hasLiveDaemon settings tree
  rcases accountsWith_of_follow start none moves phase stands _ live with
    about | dismissed
  · obtain ⟨-, sponsors⟩ := sponsors_of_follow settings tree moves member worker
    rcases sponsors phase stands about with unfinished | ⟨-, returned⟩
    · exact absurd (stands.isAttempting unfinished) (not_attempting_of_ended failed)
    · cases stage?_inj returned failed
  · -- A daemon that ran is that of an attempt that had returned by then.
    obtain ⟨before, move, after, id, rfl, runs, -⟩ := dismissed
    obtain ⟨middle, standing⟩ := start.follow before
    have ran := runs.stands standing
    obtain ⟨badge, there, number, daemon⟩ := owned_of_follow ran rfl
    have still := badges_of_follow (registered.follow start before) standing (move :: after) there
    rw [← follow_append] at still
    cases (registered.follow start _).sound.unique still member number
    obtain ⟨-, sponsors⟩ := sponsors_of_follow settings tree before there daemon
    rcases sponsors _ ran rfl with unfinished | ⟨-, returned⟩
    · cases unfinished
    have stays := ended_of_follow standing returned (move :: after)
    rw [← follow_append] at stays
    cases stage?_inj stays failed

end Failures

/-- When a call that asks for the daemon to run has failed, the attempt that it pursued has failed
with the same fault, and no daemon of it is alive. Nothing else is left of the attempt either,
unless it got no process for a reason other than a refusal of the operating system: then the daemon
counts as starting. -/
theorem hasFailed_of_call (settings : Settings) (tree : Tree) (before rest : List Move)
    (move : Move) (id : TaskId) (fault : Fault)
    (hears : ((fresh settings tree).follow before).HearsStart id move)
    (failed : ((fresh settings tree).follow (before ++ move :: rest)).ending? id =
      some (.failed fault)) :
    (fresh settings tree).HasFailed (before ++ move :: rest)
      ((fresh settings tree).follow before).pursued fault := by
  have start := fresh_stands settings tree
  obtain ⟨tried, ended⟩ := failed_of_call start rfl hears (ending?_eq_some.mp failed)
  have exited := exited_of_failed ended
  have left := isHalted_of_failed start tried ended
  refine ⟨ending?_eq_some.mpr ended, exited, fun latest => ?_, fun latest tripped => ?_⟩
  · obtain ⟨released, ⟨tripped, starting⟩ | ⟨steady, stopped⟩⟩ := left latest
    · refine iff_of_false (fun undone => ?_) (not_not_intro tripped)
      cases starting.symm.trans undone.stopped
    · refine iff_of_true ⟨stopped, released, exited, fun spared => ?_⟩ steady
      rw [isSpared_iff, stopped] at spared
      cases spared <;> contradiction
  · obtain ⟨released, halted⟩ := left latest
    have starting := (halted.resolve_right fun steady => steady.1 tripped).2
    exact ⟨starting, released, isSpared_iff.mpr (.inl starting)⟩

/-- A caller asks for the daemon to run and is heard, and reading the diagnostics of its daemon is
refused. -/
def deafness : List Move :=
  [.event (.start false), .turn 0, .turn 1,
    .event (.breakErrors 1001 ⟨5, "Input/output error", none⟩), .turn 1, .turn 0]

theorem isLatest_deafness : sample.IsLatest deafness 1 := by
  intro earlier move later other split ended moves
  match earlier, split with
  | [], _ | [_], rfl | [_, _], rfl | [_, _, _], rfl | [_, _, _, _], rfl => cases ended
  | [_, _, _, _, _], rfl =>
      cases moves
      decide +kernel
  | _ :: _ :: _ :: _ :: _ :: _ :: others, same => simp [deafness] at same

/-- The daemon was killed, and nothing is left of its attempt. -/
theorem isUndone_deafness : (sample.follow [.event (.start false)]).HearsStart 0 (.turn 0) ∧
    (sample.follow deafness).ending? 0 =
      some (.failed (.system ⟨5, "Input/output error", none⟩)) ∧
    .killed 1001 ∈ (sample.follow deafness).deeds ∧ ¬ sample.IsTrippedUp deafness 1 ∧
    (sample.follow deafness).IsUndone 1 := by
  have hears : (sample.follow [.event (.start false)]).HearsStart 0 (.turn 0) :=
    ⟨⟨false, rfl⟩, rfl, rfl⟩
  have fails : sample.HasFailed deafness 1 (.system ⟨5, "Input/output error", none⟩) :=
    hasFailed_of_call _ _ [.event (.start false)] (deafness.drop 2) (.turn 0) 0 _ hears rfl
  have stopped : (sample.follow deafness).handle.status = .stopped := rfl
  have undone : (sample.follow deafness).IsUndone 1 :=
    ⟨stopped, rfl, fails.exited, by simp [isSpared_iff, stopped]⟩
  exact ⟨hears, rfl, by decide +kernel, (fails.undone isLatest_deafness).mp undone, undone⟩

/-- Not every attempt that has failed is undone. A name with a zero character is one that the
operating system is not asked about. -/
theorem not_forall_isUndone : ¬ ∀ (settings : Settings) (tree : Tree) (before rest : List Move)
    (move : Move) (id : TaskId) (fault : Fault),
      ((fresh settings tree).follow before).HearsStart id move →
        ((fresh settings tree).follow before).EndsAfter id (move :: rest) (.failed fault) →
          ((fresh settings tree).follow (before ++ move :: rest)).IsUndone
            ((fresh settings tree).follow before).pursued := by
  intro claim
  have undone := claim ⟨"d", ["emacs"], ["emacsclient"], ⟨.single, ["\x00"]⟩, some "R"⟩ ⟨[]⟩
    [.event (.start false)] [.turn 1, .turn 0] (.turn 0) 0 .zeroInPath ⟨⟨false, rfl⟩, rfl, rfl⟩
    (.of_take rfl (by decide +kernel))
  cases undone.stopped

end Session

end EmacsSession
