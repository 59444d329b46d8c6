/-
This file shows what the turn of a task can do to the world.
-/

import EmacsSession.Proofs.Session.Phase

namespace EmacsSession

/-- What a task may do to the world at once. -/
inductive World.Touches (id : TaskId) : World → World → Prop
  | tidy {world : World} (disk : Disk) : Touches id world { world with disk := disk }
  | read {world : World} (pid : Pid) (taken left : List (List UInt8)) :
      Touches id world (world.alter pid fun process =>
        { process with errors := process.errors.afterReading taken left })
  | terminate {world : World} (pid : Pid) : Touches id world (world.alter pid Process.terminate)
  | kill {world : World} (pid : Pid) : Touches id world (world.alter pid Process.kill)
  | spawn {world : World} (role : Role) (arguments : List String) :
      Touches id world (world.spawn id role arguments).2

/-- Nothing but the operating system refuses a spawn, and the diagnostics of daemons can be read. -/
structure World.IsFair (world : World) : Prop where
  plans : ∀ fault, .unfit fault ∉ world.plans
  readable : ∀ process ∈ world.processes, process.isDaemon → process.errors.fault = none

section Fair

variable {world after : World} {id : TaskId} {pid : Pid}

theorem World.IsFair.alter (fair : world.IsFair) {change : Process → Process}
    (role : ∀ process, (change process).isDaemon = process.isDaemon)
    (fault : ∀ process, (change process).errors.fault = process.errors.fault) :
    (world.alter pid change).IsFair := by
  refine ⟨fair.plans, fun process member daemon => ?_⟩
  obtain ⟨earlier, before, same⟩ := List.mem_map.mp member
  split at same
  next =>
    rw [← same, role] at daemon
    rw [← same, fault]
    exact fair.readable earlier before daemon
  next =>
    rw [← same] at daemon ⊢
    exact fair.readable earlier before daemon

theorem World.IsFair.spawn (fair : world.IsFair) (id : TaskId) (role : Role)
    (arguments : List String) : (world.spawn id role arguments).2.IsFair := by
  have fewer : ∀ fault, .unfit fault ∉ world.plans.tail := fun fault member =>
    fair.plans fault (List.mem_of_mem_tail member)
  rw [World.spawn]
  cases world.plans.head?.getD (.spawned {}) with
  | refused error => exact ⟨fewer, fair.readable⟩
  | unfit fault => exact ⟨fewer, fair.readable⟩
  | spawned manner =>
      refine ⟨fewer, fun process member daemon => ?_⟩
      rcases List.mem_append.mp member with old | new
      · exact fair.readable process old daemon
      · rw [List.mem_singleton.mp new]

theorem World.IsFair.touches (fair : world.IsFair) (touches : World.Touches id world after) :
    after.IsFair := by
  cases touches with
  | tidy disk => exact ⟨fair.plans, fair.readable⟩
  | read pid taken left => exact fair.alter (fun _ => rfl) fun _ => rfl
  | terminate pid =>
      refine fair.alter (fun process => (Process.terminate_continues process).isDaemon)
        fun process => ?_
      rw [Process.terminate]
      split <;> rfl
  | kill pid =>
      refine fair.alter (fun process => (Process.kill_continues process).isDaemon)
        fun process => ?_
      rw [Process.kill]
      split <;> rfl
  | spawn role arguments => exact fair.spawn id role arguments

/-- Only the operating system refuses a spawn in a fair world. -/
theorem World.IsFair.system_of_spawn (fair : world.IsFair) {role : Role} {arguments : List String}
    {fault : Fault} (refused : (world.spawn id role arguments).1 = .error fault) :
    ∃ error, fault = .system error := by
  rw [World.spawn] at refused
  cases next : world.plans.head?.getD (.spawned {}) with
  | refused error =>
      rw [next] at refused
      cases refused
      exact ⟨error, rfl⟩
  | unfit flaw =>
      cases first : world.plans.head? with
      | none => simp [first] at next
      | some plan =>
          have planned : plan = .unfit flaw := by simpa [first] using next
          exact absurd (planned ▸ List.mem_of_head? first) (fair.plans flaw)
  | spawned manner =>
      rw [next] at refused
      cases refused

theorem World.IsFair.fault (fair : world.IsFair) {process : Process}
    (found : world.process? pid = some process) (daemon : process.isDaemon) :
    (world.errors pid).fault = none := by
  rw [World.errors, found]
  exact fair.readable process (List.mem_of_find?_eq_some found) daemon

end Fair

namespace Session

/-- The world of one session is that of another after some touches of a task. -/
def Reaches (session after : Session) (id : TaskId) : Prop :=
  Relation.ReflTransGen (World.Touches id) session.world after.world

section Touches

variable {session after : Session} {id : TaskId} {pid : Pid}

theorem Reaches.of_world (same : after.world = session.world) : session.Reaches after id := by
  rw [Reaches, same]

theorem Reaches.of_touch (touches : World.Touches id session.world after.world) :
    session.Reaches after id :=
  .single touches

theorem Reaches.trans {middle : Session} (first : session.Reaches middle id)
    (second : middle.Reaches after id) : session.Reaches after id :=
  Relation.ReflTransGen.trans first second

theorem foldl_logChunk_world (texts : List (List Char)) (session : Session) :
    (texts.foldl logChunk session).world = session.world := by
  induction texts generalizing session with
  | nil => rfl
  | cons text texts inductionHypothesis => exact inductionHypothesis (session.logChunk text)

theorem foldl_logDiagnostic_world (lines : List (List Char)) (session : Session) :
    (lines.foldl logDiagnostic session).world = session.world := by
  induction lines generalizing session with
  | nil => rfl
  | cons line lines inductionHypothesis => exact inductionHypothesis (session.logDiagnostic line)

theorem joinAttempt_world (attempt : TaskId) (enters : Bool) :
    (session.joinAttempt id attempt enters).world = session.world := by
  rw [joinAttempt]
  split <;> simp

theorem runStart_world (enters : Bool) : (session.runStart id enters).world = session.world := by
  rw [runStart]
  split
  · rfl
  · split
    · exact joinAttempt_world _ _
    · exact joinAttempt_world _ _

theorem runWatch_world : (session.runWatch id pid).world = session.world := by
  rw [runWatch]
  split
  · rfl
  · dsimp only
    split <;> rfl

theorem endBackground_world : (session.endBackground id).world = session.world := by
  rw [endBackground]
  split <;> exact foldl_requestCancel_world _

theorem awaitExit_world : (session.awaitExit id pid).world = session.world := by
  rw [awaitExit]
  split
  · exact endBackground_world
  · rfl

theorem joinBackground_world (tasks : List TaskId) (ending : Ending) :
    (session.joinBackground id tasks ending).world = session.world := by
  rw [joinBackground]
  split <;> rfl

theorem answer_world (client : Process) : (session.answer id client).world = session.world := by
  rw [answer]
  split <;> rfl

/-- A process that has not ended is killed. -/
theorem reaches_kill (session : Session) (id : TaskId) (pid : Pid) :
    session.Reaches (if session.hasExited pid then session else session.kill pid) id := by
  split
  · exact .of_world rfl
  · exact .of_touch (.kill pid)

theorem failAttempt_reaches (fault : Fault) :
    session.Reaches (session.failAttempt id pid fault) id := by
  rw [failAttempt]
  apply (reaches_kill ((session.withProcess none).become .stopped) id pid).trans
  apply Reaches.of_world
  split_ifs <;> rfl

theorem failWithCode_reaches : session.Reaches (session.failWithCode id pid) id := by
  rw [failWithCode]
  split
  · exact failAttempt_reaches _
  · exact .of_world rfl

theorem readUntilReady_reaches (readiness : Readiness) :
    session.Reaches (session.readUntilReady id pid readiness) id := by
  rw [readUntilReady]
  dsimp only
  split
  · exact failAttempt_reaches _
  · exact failAttempt_reaches _
  next marker _ _ =>
    generalize readiness.run marker.toList (session.world.errors pid).coming = result
    generalize (session.world.errors pid).coming.take result.texts.length = taken
    have reads : session.Reaches (session.takeChunks pid taken result.left) id :=
      .of_touch (.read pid taken result.left)
    have logs : session.Reaches
        (result.texts.foldl logChunk (session.takeChunks pid taken result.left)) id :=
      reads.trans (.of_world (foldl_logChunk_world _ _))
    apply logs.trans
    split
    · exact .of_world rfl
    · exact failAttempt_reaches _
    · split
      · exact failWithCode_reaches
      · exact .of_world rfl

theorem attach_reaches : session.Reaches (session.attach id pid) id := by
  rw [attach]
  split
  · have same : session.Reaches (session.withProcess (some pid)) id := .of_world rfl
    exact same.trans (readUntilReady_reaches {})
  · exact .of_world rfl

theorem SpawnsAs.reaches {role : Role} {arguments : List String} {input output errors : Connection}
    {result : Except Fault Pid}
    (spawns : session.SpawnsAs id role arguments input output errors result after) :
    session.Reaches after id := by
  obtain ⟨severity, message, spawned⟩ := spawns
  have touches : World.Touches id session.world
      ((session.log severity message).spawn id role arguments input output errors).2.world :=
    .spawn role arguments
  rw [spawned] at touches
  exact .of_touch touches

theorem launch_reaches (directory : Path) :
    session.Reaches (session.launch id directory) id := by
  cases launch_launches session id directory with
  | refused spawns runs => exact runs ▸ spawns.reaches.trans (.of_world rfl)
  | unfit spawns odd runs => exact runs ▸ spawns.reaches.trans (.of_world rfl)
  | hired spawns runs => exact runs ▸ spawns.reaches.trans attach_reaches

theorem runAttempt_reaches : session.Reaches (session.runAttempt id) id := by
  have tries (disk : Disk) :
      session.Reaches ((session.become .starting).onDisk disk) id := .of_touch (.tidy disk)
  cases runAttempt_attempts session id with
  | reuses current runs =>
      have enters : session.Reaches (session.become .starting) id := .of_world rfl
      exact runs ▸ enters.trans (launch_reaches _)
  | @makes directory disk vacant made runs =>
      have adopts : session.Reaches (((session.become .starting).onDisk disk).adopt directory) id :=
        (tries disk).trans (.of_world rfl)
      exact runs ▸ adopts.trans (launch_reaches directory)
  | refused vacant made runs => exact runs ▸ (tries _).trans (.of_world rfl)
  | unfit vacant made odd runs => exact runs ▸ (tries _).trans (.of_world rfl)

theorem runRelay_reaches (diagnostics : Diagnostics) :
    session.Reaches (session.runRelay id pid diagnostics) id := by
  rw [runRelay]
  dsimp only
  split
  · exact .of_world (foldl_logDiagnostic_world _ _)
  · generalize diagnostics.run (session.world.errors pid).coming = result
    have reads : session.Reaches
        (session.takeChunks pid (session.world.errors pid).coming []) id :=
      .of_touch (.read pid _ [])
    apply reads.trans
    apply Reaches.of_world
    split
    · exact (foldl_logDiagnostic_world _ _).trans (foldl_logDiagnostic_world _ _)
    · exact foldl_logDiagnostic_world _ _

theorem runStop_reaches : session.Reaches (session.runStop id) id := by
  rw [runStop]
  split
  · exact .of_world rfl
  · dsimp only
    generalize told : ((session.withProcess none).become .stopped).log .info
      ("Stopping " ++ session.subject) = stopped
    have stops : session.Reaches stopped id := told ▸ .of_world rfl
    apply stops.trans
    split
    · exact .of_world endBackground_world
    next pid _ =>
      have asks : stopped.Reaches
          (if stopped.hasExited pid then stopped else stopped.terminate pid) id := by
        split
        · exact .of_world rfl
        · exact .of_touch (.terminate pid)
      exact asks.trans (.of_world awaitExit_world)

theorem abandonClient_reaches (ending : Ending) :
    session.Reaches (session.abandonClient id pid ending) id := by
  rw [abandonClient]
  apply (reaches_kill session id pid).trans
  apply Reaches.of_world
  split_ifs <;> rfl

theorem attachClient_reaches (input : Value) :
    session.Reaches (session.attachClient id pid input) id := by
  cases attachClient_attaches session id pid input with
  | waits runs => exact .of_world (runs ▸ rfl)
  | gives read runs => exact .of_world (runs ▸ rfl)
  | abandons unreadable runs => exact runs ▸ abandonClient_reaches _

theorem runEvaluate_reaches (form input : Value) :
    session.Reaches (session.runEvaluate id form input) id := by
  cases runEvaluate_asks session id form input with
  | notStarted idle runs => exact .of_world (runs ▸ rfl)
  | unprintable running unprintable runs => exact .of_world (runs ▸ rfl)
  | refused running printed spawns runs => exact runs ▸ spawns.reaches.trans (.of_world rfl)
  | hired running printed spawns runs =>
      exact runs ▸ spawns.reaches.trans (attachClient_reaches input)

theorem takeAnswer_reaches : session.Reaches (session.takeAnswer id pid) id := by
  rw [takeAnswer]
  split
  · exact .of_world rfl
  · split
    · exact abandonClient_reaches _
    · split
      · exact .of_world (answer_world _)
      · exact .of_world rfl

theorem proceed_reaches (stage : Stage) : session.Reaches (session.proceed id stage) id := by
  cases stage with
  | start enters => exact .of_world (runStart_world enters)
  | awaitAttempt attempt enters => exact .of_world (joinAttempt_world attempt enters)
  | attempt => exact runAttempt_reaches
  | awaitSpawn pid => exact attach_reaches
  | awaitReady pid readiness => exact readUntilReady_reaches readiness
  | awaitCode pid => exact failWithCode_reaches
  | relay pid diagnostics => exact runRelay_reaches diagnostics
  | watch pid => exact .of_world runWatch_world
  | stop => exact runStop_reaches
  | awaitTermination pid => exact .of_world awaitExit_world
  | awaitBackground tasks => exact .of_world (joinBackground_world tasks _)
  | evaluate form input => exact runEvaluate_reaches form input
  | awaitClientSpawn pid input => exact attachClient_reaches input
  | awaitAnswer pid => exact takeAnswer_reaches
  | awaitEnd pid fault =>
      rw [proceed]
      split <;> exact .of_world rfl
  | awaitClientEnd pid ending =>
      rw [proceed]
      split <;> exact .of_world rfl
  | ended ending => exact .of_world rfl

/-- The turn of a task does to the world what that task may do. -/
theorem resume_reaches : session.Reaches (session.resume id) id := by
  cases found : session.stage? id with
  | none => exact .of_world (by rw [resume_of_absent found])
  | some stage =>
      rw [resume_of_stage found]
      split
      next =>
        cases stage with
        | awaitAttempt attempt enters => exact .of_world (forget_world attempt)
        | awaitBackground tasks => exact .of_world (joinBackground_world tasks _)
        | awaitClientSpawn pid input => exact abandonClient_reaches _
        | awaitAnswer pid => exact abandonClient_reaches _
        | attempt => exact proceed_reaches .attempt
        | awaitSpawn pid => exact proceed_reaches (.awaitSpawn pid)
        | awaitReady pid readiness => exact proceed_reaches (.awaitReady pid readiness)
        | awaitCode pid => exact proceed_reaches (.awaitCode pid)
        | awaitEnd pid fault => exact proceed_reaches (.awaitEnd pid fault)
        | _ => exact .of_world rfl
      next => exact proceed_reaches stage

theorem Reaches.fair (reaches : session.Reaches after id) (fair : session.world.IsFair) :
    after.world.IsFair := by
  have kept {world : World}
      (touched : Relation.ReflTransGen (World.Touches id) session.world world) :
      world.IsFair := by
    induction touched with
    | refl => exact fair
    | tail _ touches inductionHypothesis => exact inductionHypothesis.touches touches
  exact kept reaches

end Touches

end Session

end EmacsSession
