/-
This file finds the phase of a daemon, which every small step keeps or changes to the next one.
-/

import EmacsSession.Proofs.Session.Move

namespace EmacsSession

/-- The phases of a daemon. In all but the first and the last there is one unfinished attempt. -/
inductive Phase where
  /-- No attempt is unfinished, and no daemon runs. -/
  | resting
  /-- An attempt was asked for and has no process yet. -/
  | asked (attempt : TaskId)
  /-- The attempt waits for the pipes of its process, which is not the daemon's yet. -/
  | spawning (attempt : TaskId) (pid : Pid)
  /-- The attempt waits for its process to become ready. -/
  | waking (attempt : TaskId) (pid : Pid)
  /-- The attempt has failed and waits for its process to end. -/
  | failing (attempt : TaskId) (pid : Pid)
  | running (pid : Pid)
  deriving DecidableEq

namespace Phase

/-- The attempt that is unfinished in a phase. -/
def attempt? : Phase → Option TaskId
  | .asked id | .spawning id _ | .waking id _ | .failing id _ => some id
  | .resting | .running _ => none

/-- The process that is the daemon's in a phase. -/
def process? : Phase → Option Pid
  | .waking _ pid | .running pid => some pid
  | _ => none

/-- The process that a phase is about. -/
def pid? : Phase → Option Pid
  | .spawning _ pid | .waking _ pid | .failing _ pid | .running pid => some pid
  | .resting | .asked _ => none

/-- The process that may become ready. -/
def young? : Phase → Option Pid
  | .spawning _ pid | .waking _ pid => some pid
  | _ => none

/-- The states that the daemon can be in. -/
def Permits : Phase → Status → Prop
  | .resting, status | .asked _, status => status ≠ .running
  | .spawning _ _, status | .waking _ _, status => status = .starting
  | .failing _ _, status => status = .stopped
  | .running _, status => status = .running

end Phase

namespace Stage

/-- The phase of a daemon with an unfinished attempt in this stage. -/
def phase? (id : TaskId) : Stage → Option Phase
  | .attempt => some (.asked id)
  | .awaitSpawn pid => some (.spawning id pid)
  | .awaitReady pid _ | .awaitCode pid => some (.waking id pid)
  | .awaitEnd pid _ => some (.failing id pid)
  | _ => none

/-- The process that a background task in this stage looks after. -/
def charge? : Stage → Option Pid
  | .relay pid _ | .watch pid => some pid
  | _ => none

theorem phase?_of_isCall {stage : Stage} (call : stage.isCall) (id : TaskId) :
    stage.phase? id = none := by
  cases stage <;> first | rfl | cases call

theorem charge?_of_isCall {stage : Stage} (call : stage.isCall) : stage.charge? = none := by
  cases stage <;> first | rfl | cases call

theorem isCaller_of_charge? {stage : Stage} {pid : Pid} (looks : stage.charge? = some pid) :
    stage.isCaller = false := by
  cases stage <;> first | rfl | cases looks

theorem ending?_of_charge? {stage : Stage} {pid : Pid} (looks : stage.charge? = some pid) :
    stage.ending? = none := by
  cases stage <;> first | rfl | cases looks

theorem phase?_of_isYielding {stage : Stage} (yielding : stage.isYielding) (id : TaskId) :
    stage.phase? id = none := by
  cases stage <;> first | rfl | cases yielding

theorem phase?_of_isEvaluation {stage : Stage} (evaluation : stage.isEvaluation) (id : TaskId) :
    stage.phase? id = none := by
  cases stage <;> first | rfl | cases evaluation

theorem charge?_of_isEvaluation {stage : Stage} (evaluation : stage.isEvaluation) :
    stage.charge? = none := by
  cases stage <;> first | rfl | cases evaluation

theorem phase?_of_ended {stage : Stage} (ended : stage.ending?.isSome) (id : TaskId) :
    stage.phase? id = none ∧ stage.charge? = none := by
  cases stage <;> first | exact ⟨rfl, rfl⟩ | cases ended

theorem attempt?_of_phase? {stage : Stage} {id : TaskId} {phase : Phase}
    (own : stage.phase? id = some phase) : phase.attempt? = some id := by
  cases stage <;> cases own <;> rfl

theorem phase?_of_isWaking {stage : Stage} {pid : Pid} (waking : stage.isWaking pid)
    (id : TaskId) : stage.phase? id = some (.waking id pid) := by
  cases stage <;> first | cases waking; rfl | cases waking

end Stage

namespace Session

/-- The phase that the task stands for, if it is an unfinished attempt. -/
def phase? (session : Session) (id : TaskId) : Option Phase :=
  (session.stage? id).bind (Stage.phase? id)

/-- The session stands in a phase: its only unfinished attempt is the one of the phase, which is
the one that is remembered, and process and state of the handle are those of the phase. -/
structure Stands (session : Session) (phase : Phase) : Prop where
  attempts : ∀ id, session.phase? id = if phase.attempt? = some id then some phase else none
  memo : ∀ id, phase.attempt? = some id → session.handle.attempt = some id
  process : session.handle.process = phase.process?
  status : phase.Permits session.handle.status
  latest : ∀ pid, phase.pid? = some pid → session.world.latestPid? = some pid
  numbered : session.world.IsNumbered
  charges : ∀ id stage pid, session.stage? id = some stage → stage.charge? = some pid →
    session.world.Knows pid ∧ phase.young? ≠ some pid

/-- The daemon runs, as this process. -/
def RunsAs (session : Session) (pid : Pid) : Prop :=
  session.handle.status = .running ∧ session.handle.process = some pid

/-- The ways from one phase to the next. A daemon that stops running has ended, or was asked to. -/
inductive Passage (mover : Option TaskId) (before after : Session) : Phase → Phase → Prop
  | stay {phase : Phase} : Passage mover before after phase phase
  | ask {id : TaskId} {enters : Bool} (moves : mover = some id)
      (asks : before.stage? id = some (.start enters)) :
      Passage mover before after .resting (.asked before.tasks.length)
  | refuse {id : TaskId} : Passage mover before after (.asked id) .resting
  | spawn {id : TaskId} {pid : Pid} (new : ¬ before.world.Knows pid) :
      Passage mover before after (.asked id) (.spawning id pid)
  | attach {id : TaskId} {pid : Pid} :
      Passage mover before after (.spawning id pid) (.waking id pid)
  | ready {id : TaskId} {pid : Pid} : Passage mover before after (.waking id pid) (.running pid)
  | abort {id : TaskId} {pid : Pid} : Passage mover before after (.waking id pid) (.failing id pid)
  | fail {id : TaskId} {pid : Pid} (exited : before.hasExited pid) :
      Passage mover before after (.failing id pid) .resting
  | halt {pid : Pid} (ends : before.hasExited pid ∨ .terminated pid ∈ after.deeds) :
      Passage mover before after (.running pid) .resting

section Stages

variable {session after : Session} {id : TaskId} {stage later : Stage}

theorem phase?_of_stage? (found : session.stage? id = some stage) :
    session.phase? id = stage.phase? id := by
  rw [phase?, found]
  rfl

theorem phase?_of_tasks (same : after.tasks = session.tasks) : after.phase? = session.phase? := by
  funext id
  rw [phase?, phase?, stage?_of_tasks same]

theorem phase?_moveTo (found : session.stage? id = some stage) (other : TaskId) :
    (session.moveTo id later).phase? other =
      if other = id then later.phase? id else session.phase? other := by
  split
  next same =>
    subst same
    rw [phase?, stage?_moveTo_self (lt_of_stage? found)]
    rfl
  next different => rw [phase?, stage?_moveTo_of_ne different, phase?]

/-- A task that stands for the same phase as before changes the phase of no task. -/
theorem phase?_moveTo_same (found : session.stage? id = some stage)
    (same : later.phase? id = stage.phase? id) :
    (session.moveTo id later).phase? = session.phase? := by
  funext other
  rw [phase?_moveTo found]
  split
  next self => rw [self, same, phase?_of_stage? found]
  next => rfl

/-- Only the stage of the task that was changed matters, not whether it is to be cancelled. -/
theorem stage?_alterTask {alter : Task → Task} (moves : ∀ task, (alter task).stage = later) :
    (session.alterTask id alter).stage? = (session.moveTo id later).stage? := by
  funext other
  simp only [stage?, Session.moveTo, alterTask_tasks, List.getElem?_modify]
  cases session.tasks[other]? with
  | none => rfl
  | some task =>
      by_cases same : id = other <;> simp [same, moves]

@[simp] theorem forget_tasks (attempt : TaskId) :
    (session.forget attempt).tasks = session.tasks := by
  rw [forget]
  split <;> rfl

@[simp] theorem forget_background (attempt : TaskId) :
    (session.forget attempt).handle.background = session.handle.background := by
  rw [forget]
  split <;> rfl

@[simp] theorem forget_process (attempt : TaskId) :
    (session.forget attempt).handle.process = session.handle.process := by
  rw [forget]
  split <;> rfl

@[simp] theorem forget_status (attempt : TaskId) :
    (session.forget attempt).handle.status = session.handle.status := by
  rw [forget]
  split <;> rfl

@[simp] theorem forget_world (attempt : TaskId) :
    (session.forget attempt).world = session.world := by
  rw [forget]
  split <;> rfl

@[simp] theorem forget_deeds (attempt : TaskId) :
    (session.forget attempt).deeds = session.deeds := by
  rw [forget]
  split <;> rfl

theorem stage?_forget (attempt : TaskId) : (session.forget attempt).stage? = session.stage? :=
  stage?_of_tasks (forget_tasks attempt)

theorem stage?_length (session : Session) : session.stage? session.tasks.length = none := by
  simp [stage?]

theorem stage?_moveTo {other : TaskId} {standing : Stage}
    (here : (session.moveTo id later).stage? other = some standing) :
    other = id ∧ standing = later ∨ session.stage? other = some standing := by
  by_cases same : other = id
  · subst same
    rw [stage?_moveTo_self (by simpa using lt_of_stage? here)] at here
    exact .inl ⟨rfl, (Option.some.inj here).symm⟩
  · rw [stage?_moveTo_of_ne same] at here
    exact .inr here

theorem stage?_begin {other : TaskId} {standing : Stage}
    (here : (session.begin stage).stage? other = some standing) :
    session.stage? other = some standing ∨ other = session.tasks.length ∧ standing = stage := by
  rcases Nat.lt_trichotomy other session.tasks.length with before | same | beyond
  · rw [stage?_begin_of_lt before] at here
    exact .inl here
  · subst same
    rw [stage?_begin_self] at here
    exact .inr ⟨rfl, (Option.some.inj here).symm⟩
  · have inside := lt_of_stage? here
    simp only [begin_tasks, List.length_append, List.length_singleton] at inside
    exact absurd inside (Nat.not_lt.mpr beyond)

theorem phase?_begin (other : TaskId) :
    (session.begin stage).phase? other =
      if other = session.tasks.length then stage.phase? other else session.phase? other := by
  split
  next same =>
    rw [same, phase?, stage?_begin_self]
    rfl
  next different =>
    rw [phase?, phase?, stage?, stage?, begin_tasks, List.getElem?_append]
    split
    next => rfl
    next above =>
      have beyond : session.tasks.length < other :=
        Nat.lt_of_le_of_ne (Nat.not_lt.mp above) (Ne.symm different)
      simp [Nat.le_of_lt beyond, Nat.sub_eq_zero_iff_le, Nat.not_le.mpr beyond]

end Stages

namespace Stands

variable {session after : Session} {phase next : Phase} {id : TaskId} {stage later : Stage}

/-- An unfinished attempt tells the phase. -/
theorem phase_eq (stands : session.Stands phase) {found : Phase}
    (unfinished : session.phase? id = some found) : phase = found := by
  rw [stands.attempts] at unfinished
  split at unfinished
  · exact Option.some.inj unfinished
  · cases unfinished

/-- An unfinished attempt is the one of the phase. -/
theorem attempt_eq (stands : session.Stands phase) {found : Phase}
    (unfinished : session.phase? id = some found) : phase.attempt? = some id := by
  rw [stands.attempts] at unfinished
  split at unfinished
  next same => exact same
  next => cases unfinished

theorem eq_of_stage? (stands : session.Stands phase) {found : Phase}
    (standing : session.stage? id = some stage) (own : stage.phase? id = some found) :
    phase = found :=
  stands.phase_eq ((phase?_of_stage? standing).trans own)

/-- A session stands in one phase only. -/
theorem unique (stands : session.Stands phase) (other : session.Stands next) : phase = next := by
  cases unfinished : phase.attempt? with
  | some id =>
      have standing := stands.attempts id
      rw [if_pos unfinished] at standing
      exact (other.phase_eq standing).symm
  | none =>
      cases pending : next.attempt? with
      | some id =>
          have standing := other.attempts id
          rw [if_pos pending] at standing
          exact stands.phase_eq standing
      | none =>
          have same := stands.process.symm.trans other.process
          cases phase <;> cases next <;> simp_all [Phase.attempt?, Phase.process?]

/-- The process is alive to the handle only while it wakes or runs. -/
theorem current (stands : session.Stands phase) {pid : Pid}
    (current : session.handle.process = some pid) :
    (∃ attempt, phase = .waking attempt pid) ∨ phase = .running pid := by
  have same := stands.process.symm.trans current
  cases phase <;> simp_all [Phase.process?]

theorem running (stands : session.Stands phase) (running : session.handle.status = .running) :
    ∃ pid, phase = .running pid ∧ session.handle.process = some pid := by
  have permits := stands.status
  have process := stands.process
  rw [running] at permits
  cases phase <;> simp_all [Phase.Permits, Phase.process?]

theorem live (stands : session.Stands phase) (running : session.handle.status = .running) :
    session.handle.process ≠ none := by
  obtain ⟨pid, -, current⟩ := stands.running running
  simp [current]

/-- What keeps the attempts, the handle and the numbers of the processes keeps the phase. -/
theorem keep (stands : session.Stands phase) (attempts : after.phase? = session.phase?)
    (memo : phase.attempt?.isSome → after.handle.attempt = session.handle.attempt)
    (process : after.handle.process = session.handle.process)
    (status : after.handle.status = session.handle.status)
    (latest : after.world.latestPid? = session.world.latestPid?)
    (numbered : after.world.IsNumbered)
    (charges : ∀ id stage pid, after.stage? id = some stage → stage.charge? = some pid →
      after.world.Knows pid ∧ phase.young? ≠ some pid) : after.Stands phase where
  attempts id := attempts ▸ stands.attempts id
  memo id unfinished := (memo (by simp [unfinished])).trans (stands.memo id unfinished)
  process := process.trans stands.process
  status := status ▸ stands.status
  latest pid about := latest.trans (stands.latest pid about)
  numbered := numbered
  charges := charges

/-- A task that is no attempt goes on to a stage that looks after no other process. -/
theorem charges_moveTo (stands : session.Stands phase) (found : session.stage? id = some stage)
    (charge : later.charge? = none ∨ later.charge? = stage.charge?) :
    ∀ other standing pid, (session.moveTo id later).stage? other = some standing →
      standing.charge? = some pid → session.world.Knows pid ∧ phase.young? ≠ some pid := by
  intro other standing pid here looks
  rcases stage?_moveTo here with ⟨rfl, rfl⟩ | before
  · rcases charge with nothing | same
    · rw [nothing] at looks
      cases looks
    · exact stands.charges other stage pid found (same.symm.trans looks)
  · exact stands.charges other standing pid before looks

theorem moveTo (stands : session.Stands phase) (found : session.stage? id = some stage)
    (same : later.phase? id = stage.phase? id)
    (charge : later.charge? = none ∨ later.charge? = stage.charge?) :
    (session.moveTo id later).Stands phase :=
  stands.keep (phase?_moveTo_same found same) (fun _ => rfl) rfl rfl rfl stands.numbered
    (stands.charges_moveTo found charge)

theorem begin (stands : session.Stands phase) (call : stage.isCall) :
    (session.begin stage).Stands phase := by
  refine stands.keep ?_ (fun _ => rfl) rfl rfl rfl stands.numbered ?_
  · funext other
    rw [phase?_begin]
    split
    next same =>
      rw [same, phase?, stage?_length, Stage.phase?_of_isCall call]
      rfl
    next => rfl
  · intro other standing pid here looks
    rcases stage?_begin here with before | ⟨-, same⟩
    · exact stands.charges other standing pid before looks
    · rw [same, Stage.charge?_of_isCall call] at looks
      cases looks

theorem alter (stands : session.Stands phase) (pid : Pid) {change : Process → Process}
    (lasts : ∀ process : Process, process.Lasts (change process)) :
    (session.alterProcess pid change).Stands phase := by
  have keeps (process : Process) := (lasts process).pid
  refine stands.keep rfl (fun _ => rfl) rfl rfl ?_ ?_ ?_
  · exact World.latestPid?_alter keeps fun process => (lasts process).isDaemon
  · exact stands.numbered.alter keeps
  · intro other standing charge here looks
    obtain ⟨known, old⟩ := stands.charges other standing charge here looks
    exact ⟨(World.knows_alter keeps charge).mpr known, old⟩

theorem quiet (stands : session.Stands phase) (quiet : Quiet session after) :
    after.Stands phase := by
  obtain ⟨_, _, _, _, _, rfl, -, -⟩ := quiet
  exact ⟨stands.attempts, stands.memo, stands.process, stands.status, stands.latest,
    stands.numbered, stands.charges⟩

/-- An attempt that goes on, or ends, is the only unfinished one as before. -/
theorem attempts_moveTo (stands : session.Stands phase) (found : session.stage? id = some stage)
    (own : stage.phase? id = some phase)
    (now : later.phase? id = if next.attempt? = some id then some next else none)
    (only : ∀ other, next.attempt? = some other → other = id) (other : TaskId) :
    (session.moveTo id later).phase? other =
      if next.attempt? = some other then some next else none := by
  rw [phase?_moveTo found]
  split
  next same =>
    subst same
    exact now
  next different =>
    have before : phase.attempt? ≠ some other := by
      rw [Stage.attempt?_of_phase? own]
      exact fun same => different (Option.some.inj same).symm
    have after : next.attempt? ≠ some other := fun same => different (only other same)
    rw [stands.attempts, if_neg before, if_neg after]

/-- A waiting caller that ends forgets its attempt only if that has ended. -/
theorem forget (stands : session.Stands phase) (attempt : TaskId) :
    (session.forget attempt).Stands phase := by
  rw [Session.forget]
  split
  next finished =>
    obtain ⟨ended, remembered⟩ : session.hasEnded attempt ∧
        session.handle.attempt = some attempt := by simpa using finished
    refine stands.keep rfl (fun unfinished => ?_) rfl rfl rfl stands.numbered stands.charges
    obtain ⟨other, open_⟩ := Option.isSome_iff_exists.mp unfinished
    have same : other = attempt :=
      Option.some.inj ((stands.memo other open_).symm.trans remembered)
    have standing := stands.attempts attempt
    rw [if_pos (same ▸ open_), phase?] at standing
    rw [hasEnded, ending?] at ended
    cases here : session.stage? attempt with
    | none => simp [here] at standing
    | some stage => cases stage <;> simp_all [Stage.phase?, Stage.ending?]
  next => exact stands

/-- A new attempt that is remembered is the only one where none was. -/
theorem ask (stands : session.Stands .resting)
    (notRunning : session.handle.status ≠ .running) :
    ((session.begin .attempt).withHandle fun handle =>
      { handle with attempt := some session.tasks.length }).Stands
        (.asked session.tasks.length) := by
  refine ⟨?_, fun other same => same, stands.process, notRunning, nofun, stands.numbered, ?_⟩
  · intro other
    refine (phase?_begin other).trans ?_
    by_cases same : other = session.tasks.length
    · simp [same, Stage.phase?, Phase.attempt?]
    · have different : (Phase.asked session.tasks.length).attempt? ≠ some other :=
        fun equal => same (Option.some.inj equal).symm
      rw [if_neg same, if_neg different, stands.attempts]
      rfl
  · intro other standing pid here looks
    refine ⟨?_, nofun⟩
    rcases stage?_begin here with before | ⟨-, new⟩
    · exact (stands.charges other standing pid before looks).1
    · rw [new] at looks
      cases looks

/-- Where no attempt is remembered and the daemon does not run, it rests. -/
theorem resting (stands : session.Stands phase) (notRunning : session.handle.status ≠ .running)
    (free : session.handle.attempt = none) : phase = .resting := by
  have memo := stands.memo
  have permits := stands.status
  cases phase <;> simp_all [Phase.attempt?, Phase.Permits]

/-- An attempt gets a process, which no background task looks after. -/
theorem spawn (stands : session.Stands phase) (found : session.stage? id = some .attempt)
    (starting : session.handle.status = .starting) {process : Process}
    (number : process.pid = World.firstPid + session.world.processes.length)
    (daemon : process.isDaemon) :
    ((session.enlist process).moveTo id (.awaitSpawn process.pid)).Stands
      (.spawning id process.pid) := by
  have asked := stands.eq_of_stage? found rfl
  subst asked
  refine ⟨?_, stands.memo, stands.process, starting, ?_, stands.numbered.enlist number, ?_⟩
  · exact stands.attempts_moveTo found rfl (by simp [Stage.phase?, Phase.attempt?])
      (by simp [Phase.attempt?])
  · rintro pid ⟨⟩
    exact World.latestPid?_enlist_daemon daemon
  · intro other standing pid here looks
    have nothing : (Stage.awaitSpawn process.pid).charge? = none := rfl
    have old := (stands.charges_moveTo found (.inl nothing) other standing pid here looks).1
    refine ⟨World.knows_enlist stands.numbered number old, ?_⟩
    rintro ⟨⟩
    exact World.not_knows_next stands.numbered (number ▸ old)

/-- The process that a phase is about is a daemon. -/
theorem daemon (stands : session.Stands phase) {pid : Pid} (about : phase.pid? = some pid) :
    ∃ process, session.world.process? pid = some process ∧ process.isDaemon := by
  obtain ⟨process, last, -, there⟩ := stands.numbered.latest (stands.latest pid about)
  exact ⟨process, there, (List.mem_filter.mp (List.mem_of_getLast? last)).2⟩

/-- There is a process of the number that a phase is about. -/
theorem known (stands : session.Stands phase) {pid : Pid} (about : phase.pid? = some pid) :
    session.world.Knows pid := by
  obtain ⟨process, there, -⟩ := stands.daemon about
  rw [World.Knows, there]
  rfl

/-- The daemon is ready, and its background tasks look after its process. -/
theorem ready (stands : session.Stands phase) {pid : Pid} {readiness : Readiness}
    (found : session.stage? id = some (.awaitReady pid readiness)) (diagnostics : Diagnostics) :
    (session.becomeReady id pid diagnostics).Stands (.running pid) := by
  have waking := stands.eq_of_stage? found rfl
  subst waking
  have tasks := becomeReady_tasks session id pid diagnostics (lt_of_stage? found)
  have known := stands.known rfl
  refine ⟨?_, nofun, stands.process, rfl, stands.latest, stands.numbered, ?_⟩
  · intro other
    rw [phase?_of_tasks tasks, phase?_begin, phase?_begin, phase?_moveTo found, stands.attempts]
    by_cases self : other = id
    · simp [self, Stage.phase?, Phase.attempt?]
    · simp [self, Stage.phase?, Phase.attempt?, Ne.symm self]
  · intro other standing charge here looks
    refine ⟨?_, nofun⟩
    rw [stage?_of_tasks tasks] at here
    rcases stage?_begin here with here | ⟨-, rfl⟩
    · rcases stage?_begin here with here | ⟨-, rfl⟩
      · exact (stands.charges_moveTo found (.inl rfl) other standing charge here looks).1
      · cases looks
        exact known
    · cases looks
      exact known

/-- An attempt goes on to a later phase of its own, or ends. -/
theorem proceed (stands : session.Stands phase) (found : session.stage? id = some stage)
    (own : stage.phase? id = some phase)
    (now : later.phase? id = if next.attempt? = some id then some next else none)
    (only : ∀ other, next.attempt? = some other → other = id) (charge : later.charge? = none)
    (tasks : after.tasks = session.tasks) (world : after.world = session.world)
    (memo : after.handle.attempt = session.handle.attempt)
    (process : after.handle.process = next.process?) (status : next.Permits after.handle.status)
    (about : next.pid? = none ∨ next.pid? = phase.pid?)
    (young : next.young? = none ∨ next.young? = phase.young?) :
    (after.moveTo id later).Stands next where
  attempts other := by
    have same : (after.moveTo id later).tasks = (session.moveTo id later).tasks := by
      simp [Session.moveTo, tasks]
    rw [phase?_of_tasks same]
    exact stands.attempts_moveTo found own now only other
  memo other unfinished := by
    have same : phase.attempt? = some other := by
      rw [only other unfinished]
      exact Stage.attempt?_of_phase? own
    exact memo.trans (stands.memo other same)
  process := process
  status := status
  latest pid same := by
    rw [moveTo_world, world]
    rcases about with none | before
    · rw [none] at same
      cases same
    · exact stands.latest pid (before.symm.trans same)
  numbered := by
    rw [moveTo_world, world]
    exact stands.numbered
  charges other standing pid here looks := by
    have same : (after.moveTo id later).tasks = (session.moveTo id later).tasks := by
      simp [Session.moveTo, tasks]
    rw [stage?_of_tasks same] at here
    rw [moveTo_world, world]
    obtain ⟨known, old⟩ := stands.charges_moveTo found (.inl charge) other standing pid here looks
    refine ⟨known, ?_⟩
    rcases young with none | before
    · simp [none]
    · exact before ▸ old

/-- An attempt whose process has its pipes makes it the daemon's. -/
theorem attach (stands : session.Stands phase) {pid : Pid}
    (found : session.stage? id = some (.awaitSpawn pid)) :
    ((session.withProcess (some pid)).moveTo id (.awaitReady pid {})).Stands (.waking id pid) := by
  have spawning := stands.eq_of_stage? found rfl
  subst spawning
  exact stands.proceed found rfl (by simp [Stage.phase?, Phase.attempt?])
    (by simp [Phase.attempt?]) rfl rfl rfl rfl rfl stands.status (.inr rfl) (.inr rfl)

/-- A change of the world after which the same daemons have the same numbers keeps the phase. -/
theorem reading (stands : session.Stands phase) (pid : Pid) (taken left : List (List UInt8)) :
    (session.takeChunks pid taken left).Stands phase :=
  stands.alter pid (Process.read_lasts taken left)

/-- The background tasks of a daemon that stopped look after no process that may become ready. -/
theorem stopped {pid : Pid} (stands : session.Stands (.running pid)) :
    ((session.withProcess none).become .stopped).Stands .resting where
  attempts := stands.attempts
  memo := nofun
  process := rfl
  status := nofun
  latest := nofun
  numbered := stands.numbered
  charges other standing charge here looks :=
    ⟨(stands.charges other standing charge here looks).1, nofun⟩

/-- A daemon that is dismissed has ended, or is asked to. -/
theorem dismiss_ends (pid : Pid) (message : String) :
    session.hasExited pid ∨ Deed.terminated pid ∈ (session.dismiss pid message).deeds := by
  rw [Session.dismiss]
  split
  next exited => exact .inl exited
  next => exact .inr (List.mem_cons_self ..)

theorem dismiss {pid : Pid} (stands : session.Stands (.running pid)) (other : Pid)
    (message : String) :
    (session.dismiss other message).Stands .resting := by
  rw [Session.dismiss]
  have silent : (Deed.logged .info message).status? = none := rfl
  have resting := stands.stopped.quiet (Quiet.note _ silent)
  split
  next => exact resting
  next =>
    exact (resting.alter other fun process => (Process.terminate_continues process).toLasts).quiet
      (Quiet.note _ rfl)

theorem release (stands : session.Stands phase) : session.releaseBackground.Stands phase := by
  refine stands.keep ?_ (fun _ => ?_) ?_ ?_ ?_ ?_ ?_
  · funext other
    rw [Session.phase?, releaseBackground_stage?, Session.phase?]
  all_goals simp only [releaseBackground_handle, releaseBackground_world, releaseBackground_stage?]
  · exact stands.numbered
  · exact stands.charges

/-- One more process that is no daemon keeps the phase. -/
theorem hire (stands : session.Stands phase) {process : Process}
    (next : process.pid = World.firstPid + session.world.processes.length)
    (client : process.isDaemon = false) : (session.enlist process).Stands phase := by
  refine stands.keep rfl (fun _ => rfl) rfl rfl ?_ (stands.numbered.enlist next) ?_
  · exact World.latestPid?_enlist_client client
  · intro other standing charge here looks
    obtain ⟨known, old⟩ := stands.charges other standing charge here looks
    exact ⟨World.knows_enlist stands.numbered next known, old⟩

/-- A background task whose process is the daemon's looks after a running daemon. -/
theorem running_of_charge (stands : session.Stands phase) {pid : Pid}
    (current : session.handle.process = some pid) (found : session.stage? id = some stage)
    (charge : stage.charge? = some pid) : phase = .running pid := by
  obtain ⟨attempt, wakes⟩ | runs := stands.current current
  · subst wakes
    exact absurd rfl (stands.charges id stage pid found charge).2
  · exact runs

/-- Every small step leads to a phase. -/
theorem step {mover : Option TaskId} (stands : session.Stands phase)
    (step : Step mover session after) :
    ∃ next, after.Stands next ∧ Passage mover session after phase next := by
  cases step with
  | quiet quiet => exact ⟨phase, stands.quiet quiet, .stay⟩
  | develop pid change continues =>
      exact ⟨phase, stands.alter pid fun process => (continues process).toLasts, .stay⟩
  | call stage call => exact ⟨phase, stands.begin call, .stay⟩
  | @cancel _ id stage found caller =>
      refine ⟨phase, stands.keep ?_ (fun _ => rfl) rfl rfl rfl stands.numbered ?_, .stay⟩
      · funext other
        rw [Session.phase?, stage?_requestCancel, Session.phase?]
      · rw [stage?_requestCancel]
        exact stands.charges
  | @yield _ id stage found yielding flagged =>
      have same := Stage.phase?_of_isYielding yielding id
      exact ⟨phase, stands.moveTo found same.symm (.inl rfl), .stay⟩
  | greet found running text => exact ⟨phase, stands.moveTo found rfl (.inl rfl), .stay⟩
  | @ask _ id enters found notRunning free =>
      have idle := stands.resting notRunning free
      subst idle
      have standing : (session.begin .attempt).stage? id = some (.start enters) := by
        rw [stage?_begin_of_lt (lt_of_stage? found), found]
      exact ⟨_, (stands.ask notRunning).moveTo standing rfl (.inl rfl), .ask rfl found⟩
  | join found notRunning memo => exact ⟨phase, stands.moveTo found rfl (.inl rfl), .stay⟩
  | @leave _ id attempt enters ending outcome found ended passes =>
      have standing := (congrFun (stage?_forget attempt) id).trans found
      exact ⟨phase, (stands.forget attempt).moveTo standing rfl (.inl rfl), .stay⟩
  | @abandon _ id attempt enters found flagged =>
      have standing := (congrFun (stage?_forget attempt) id).trans found
      exact ⟨phase, (stands.forget attempt).moveTo standing rfl (.inl rfl), .stay⟩
  | @enter _ id found =>
      have asked := stands.eq_of_stage? found rfl
      subst asked
      exact ⟨.asked id, ⟨stands.attempts, stands.memo, stands.process, nofun, stands.latest,
        stands.numbered, stands.charges⟩, .stay⟩
  | @refuse _ id found starting fault =>
      have asked := stands.eq_of_stage? found rfl
      subst asked
      exact ⟨.resting, stands.proceed found rfl rfl nofun rfl rfl rfl rfl stands.process nofun
        (.inl rfl) (.inl rfl), .refuse⟩
  | @collapse _ id found starting fault =>
      have asked := stands.eq_of_stage? found rfl
      subst asked
      exact ⟨.resting, stands.proceed found rfl rfl nofun rfl rfl rfl rfl stands.process
        stands.status (.inl rfl) (.inl rfl), .refuse⟩
  | @spawn _ id found starting process next daemon alive silent =>
      have asked := stands.eq_of_stage? found rfl
      subst asked
      have new : ¬ session.world.Knows process.pid := next ▸ World.not_knows_next stands.numbered
      exact ⟨_, stands.spawn found starting next daemon, .spawn new⟩
  | @attach _ id pid found =>
      have spawning := stands.eq_of_stage? found rfl
      subst spawning
      exact ⟨_, stands.attach found, .attach⟩
  | @read _ id pid readiness later found taken left follows =>
      have standing : (session.takeChunks pid taken left).stage? id = _ := found
      exact ⟨phase, (stands.reading pid taken left).moveTo standing rfl (.inl rfl), .stay⟩
  | close found => exact ⟨phase, stands.moveTo found rfl (.inl rfl), .stay⟩
  | @ready _ id pid readiness marker found setting shown diagnostics =>
      have waking := stands.eq_of_stage? found rfl
      subst waking
      exact ⟨_, stands.ready found diagnostics, .ready⟩
  | @abort _ id stage pid found waking fault =>
      have own := Stage.phase?_of_isWaking waking id
      have wakes := stands.eq_of_stage? found own
      subst wakes
      exact ⟨.failing id pid, stands.proceed found own (by simp [Stage.phase?, Phase.attempt?])
        (by simp [Phase.attempt?]) rfl rfl rfl rfl rfl rfl (.inr rfl) (.inl rfl), .abort⟩
  | @fail _ id pid fault found exited =>
      have fails := stands.eq_of_stage? found rfl
      subst fails
      have stopped : session.handle.status = .stopped := stands.status
      exact ⟨.resting, stands.proceed found rfl rfl nofun rfl rfl rfl rfl stands.process
        (by simp [Phase.Permits, stopped]) (.inl rfl) (.inl rfl), .fail exited⟩
  | @relay _ id pid diagnostics found taken left later =>
      have standing : (session.takeChunks pid taken left).stage? id = _ := found
      exact ⟨phase, (stands.reading pid taken left).moveTo standing rfl (.inr rfl), .stay⟩
  | relayed found finished own => exact ⟨phase, stands.moveTo found rfl (.inl rfl), .stay⟩
  | @notice _ id pid found exited current =>
      have runs := stands.running_of_charge current found rfl
      subst runs
      have standing : ((session.withProcess none).become .stopped).stage? id = _ := found
      exact ⟨.resting, stands.stopped.moveTo standing rfl (.inl rfl), .halt (.inl exited)⟩
  | overlook found exited other => exact ⟨phase, stands.moveTo found rfl (.inl rfl), .stay⟩
  | decline found notRunning => exact ⟨phase, stands.moveTo found rfl (.inl rfl), .stay⟩
  | @dismiss _ id pid found running current message =>
      obtain ⟨other, rfl, same⟩ := stands.running running
      cases current.symm.trans same
      have standing : (session.dismiss pid message).stage? id = some .stop := by
        rw [stage?_dismiss, found]
      exact ⟨.resting, (stands.dismiss pid message).moveTo standing rfl (.inl rfl),
        .halt (dismiss_ends pid message)⟩
  | @release _ id pid found exited =>
      have standing := (congrFun (@releaseBackground_stage? session) id).trans found
      exact ⟨phase, stands.release.moveTo standing rfl (.inl rfl), .stay⟩
  | rest found finished own => exact ⟨phase, stands.moveTo found rfl (.inl rfl), .stay⟩
  | @evaluate _ id stage later found evaluation goes alter moves =>
      have nothing : later.phase? id = stage.phase? id ∧ later.charge? = none := by
        rw [Stage.phase?_of_isEvaluation evaluation]
        rcases goes with evaluates | ended
        · exact ⟨Stage.phase?_of_isEvaluation evaluates id, Stage.charge?_of_isEvaluation evaluates⟩
        · exact Stage.phase?_of_ended ended id
      have moved := stands.moveTo found nothing.1 (.inl nothing.2)
      refine ⟨phase, moved.keep ?_ (fun _ => rfl) rfl rfl rfl stands.numbered ?_, .stay⟩
      · funext other
        rw [Session.phase?, stage?_alterTask moves, Session.phase?]
      · rw [stage?_alterTask moves]
        exact moved.charges
  | @spawnClient _ id form input found running process next client silent =>
      have standing : (session.enlist process).stage? id = _ := found
      exact ⟨phase, (stands.hire next client).moveTo standing rfl (.inl rfl), .stay⟩

end Stands

theorem fresh_stage? (settings : Settings) (tree : Tree) (id : TaskId) :
    (fresh settings tree).stage? id = none := rfl

theorem fresh_stands (settings : Settings) (tree : Tree) :
    (fresh settings tree).Stands .resting where
  attempts _ := rfl
  memo := nofun
  process := rfl
  status := nofun
  latest := nofun
  numbered := rfl
  charges id stage pid found := by
    rw [fresh_stage?] at found
    cases found

section Runs

variable {session after : Session} {phase : Phase} {mover : Option TaskId} {pid : Pid}

theorem Stands.runsAs (stands : session.Stands (.running pid)) : session.RunsAs pid :=
  ⟨stands.status, stands.process⟩

theorem RunsAs.stands (runs : session.RunsAs pid) (stands : session.Stands phase) :
    session.Stands (.running pid) := by
  obtain ⟨other, rfl, same⟩ := stands.running runs.1
  cases runs.2.symm.trans same
  exact stands

/-- What each small step between phases keeps, a move keeps, and it leads to a phase. -/
theorem Steps.keep (holds : Session → Prop) (stands : session.Stands phase) (begins : holds session)
    (keeps : ∀ {before after phase}, before.Stands phase → holds before →
      Step mover before after → holds after)
    (steps : Steps mover session after) : holds after ∧ ∃ next, after.Stands next := by
  induction steps with
  | refl => exact ⟨begins, phase, stands⟩
  | tail _ step inductionHypothesis =>
      obtain ⟨here, present, standing⟩ := inductionHypothesis
      obtain ⟨next, leads, -⟩ := standing.step step
      exact ⟨keeps standing here step, next, leads⟩

/-- What each small step keeps, every run keeps, and it leads to a phase. -/
theorem follow_keep (holds : Session → Prop) (stands : session.Stands phase)
    (begins : holds session)
    (keeps : ∀ {mover before after phase}, before.Stands phase → holds before →
      Step mover before after → holds after)
    (moves : List Move) :
    holds (session.follow moves) ∧ ∃ next, (session.follow moves).Stands next := by
  induction moves generalizing session phase with
  | nil => exact ⟨begins, phase, stands⟩
  | cons move moves inductionHypothesis =>
      obtain ⟨here, next, standing⟩ :=
        Steps.keep holds stands begins keeps (move_steps stands.live move)
      exact inductionHypothesis standing here

theorem Stands.follow (stands : session.Stands phase) (moves : List Move) :
    ∃ next, (session.follow moves).Stands next :=
  (follow_keep (fun _ => True) stands trivial (fun _ _ _ => trivial) moves).2

theorem Stands.move (stands : session.Stands phase) (move : Move) :
    ∃ next, (session.move move).Stands next :=
  stands.follow [move]

/-- What each move between phases keeps, every run keeps. -/
theorem keep_of_moves (holds : Session → Prop) (stands : session.Stands phase)
    (begins : holds session)
    (keeps : ∀ {before phase}, before.Stands phase → holds before →
      ∀ move, holds (before.move move))
    (moves : List Move) : holds (session.follow moves) := by
  induction moves generalizing session phase with
  | nil => exact begins
  | cons move moves inductionHypothesis =>
      obtain ⟨next, standing⟩ := stands.move move
      exact inductionHypothesis standing (keeps stands begins move)

end Runs

end Session

end EmacsSession
