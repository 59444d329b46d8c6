/-
This file shows that a running daemon has shown the ready marker.
-/

import EmacsSession.Proofs.Session.Phase

namespace EmacsSession

theorem Stream.shown_append (stream : Stream) (taken left : List (List UInt8)) :
    stream.shown <+: (stream.afterReading taken left).shown := by
  rw [Stream.shown, Stream.shown, Stream.read_afterReading, Utf8.Decoder.feed_append]
  exact List.prefix_append _ _

/-- The stages in which nothing but the attempt may read the diagnostics of its process. -/
def Stage.isListening : Stage → Bool
  | .awaitSpawn _ | .awaitReady _ _ => true
  | _ => false

theorem Stage.isListening_of_isCall {stage : Stage} (call : stage.isCall) :
    stage.isListening = false := by
  cases stage <;> first | rfl | cases call

theorem Stage.isListening_of_goes {stage : Stage}
    (goes : stage.isEvaluation ∨ stage.ending?.isSome) : stage.isListening = false := by
  cases stage <;> first | rfl | simp [isEvaluation, ending?] at goes

namespace Session

/-- An attempt knows the end of what its process has shown, and the marker was shown by a daemon
that runs. -/
structure Listens (session : Session) : Prop where
  silent : ∀ id pid, session.stage? id = some (.awaitSpawn pid) →
    (session.world.errors pid).read = []
  heard : ∀ id pid readiness, session.stage? id = some (.awaitReady pid readiness) →
    readiness.decoder = (Utf8.Decoder.idle.feed (session.world.errors pid).read).1 ∧
      readiness.tail <:+ (session.world.errors pid).shown
  shown : session.handle.status = .running → ∃ pid marker,
    session.handle.process = some pid ∧ session.handle.settings.readyMarker = some marker ∧
      marker.toList <:+: (session.world.errors pid).shown

section Listening

variable {session after : Session} {phase : Phase} {id : TaskId} {stage later : Stage}

/-- Nobody listens who did not listen before, and nothing more was read. -/
theorem Listens.keep (listens : session.Listens)
    (stages : ∀ other standing, after.stage? other = some standing → standing.isListening →
      session.stage? other = some standing)
    (read : ∀ pid, (after.world.errors pid).read = (session.world.errors pid).read)
    (settings : after.handle.settings = session.handle.settings)
    (running : after.handle.status = .running →
      session.handle.status = .running ∧ after.handle.process = session.handle.process) :
    after.Listens where
  silent other pid here := (read pid).trans (listens.silent other pid (stages other _ here rfl))
  heard other pid readiness here := by
    rw [Stream.shown, read]
    exact listens.heard other pid readiness (stages other _ here rfl)
  shown runs := by
    obtain ⟨ran, same⟩ := running runs
    obtain ⟨pid, marker, current, setting, inside⟩ := listens.shown ran
    refine ⟨pid, marker, same.trans current, (congrArg _ settings).trans setting, ?_⟩
    rwa [Stream.shown, read]

theorem stage?_moveTo_listening (deaf : later.isListening = false) {other : TaskId}
    {standing : Stage} (here : (session.moveTo id later).stage? other = some standing)
    (listening : standing.isListening) : session.stage? other = some standing := by
  rcases stage?_moveTo here with ⟨-, rfl⟩ | before
  · rw [deaf] at listening
    cases listening
  · exact before

theorem stage?_begin_listening (deaf : stage.isListening = false) {other : TaskId}
    {standing : Stage} (here : (session.begin stage).stage? other = some standing)
    (listening : standing.isListening) : session.stage? other = some standing := by
  rcases stage?_begin here with before | ⟨-, rfl⟩
  · exact before
  · rw [deaf] at listening
    cases listening

/-- A task goes on to a stage in which it does not listen. -/
theorem Listens.moveTo (listens : session.Listens) (id : TaskId)
    (deaf : later.isListening = false) : (session.moveTo id later).Listens :=
  listens.keep (fun _ _ here listening => stage?_moveTo_listening deaf here listening)
    (fun _ => rfl) rfl fun runs => ⟨runs, rfl⟩

theorem Listens.begin (listens : session.Listens) (deaf : stage.isListening = false) :
    (session.begin stage).Listens :=
  listens.keep (fun _ _ here listening => stage?_begin_listening deaf here listening)
    (fun _ => rfl) rfl fun runs => ⟨runs, rfl⟩

/-- A daemon that does not run has nothing to have shown. -/
theorem Listens.halt (listens : session.Listens) (tasks : after.tasks = session.tasks)
    (world : ∀ pid, (after.world.errors pid).read = (session.world.errors pid).read)
    (settings : after.handle.settings = session.handle.settings)
    (halted : after.handle.status ≠ .running) : after.Listens :=
  listens.keep (fun _ _ here _ => stage?_of_tasks tasks ▸ here) world settings
    fun runs => absurd runs halted

theorem Listens.forget (listens : session.Listens) (attempt : TaskId) :
    (session.forget attempt).Listens := by
  rw [Session.forget]
  split
  next =>
    exact listens.keep (fun _ _ here _ => here) (fun _ => rfl) rfl fun runs => ⟨runs, rfl⟩
  next => exact listens

theorem Listens.alter (listens : session.Listens) (pid : Pid) {change : Process → Process}
    (continues : ∀ process : Process, process.Continues (change process)) :
    (session.alterProcess pid change).Listens := by
  refine listens.keep (fun _ _ here _ => here) (fun other => ?_) rfl fun runs => ⟨runs, rfl⟩
  refine World.errors_alter (fun process => (continues process).pid) other Stream.read ?_
  intro process
  rw [Stream.read, (continues process).chunks, Stream.read]

theorem Listens.dismiss (listens : session.Listens) (pid : Pid) (message : String) :
    (session.dismiss pid message).Listens := by
  refine listens.halt dismiss_tasks (fun other => ?_) ?_ ?_
  · rw [dismiss_world]
    split
    next => rfl
    next =>
      refine World.errors_alter (fun process => (Process.terminate_continues process).pid) other
        Stream.read fun process => ?_
      rw [Stream.read, (Process.terminate_continues process).chunks, Stream.read]
  · rw [dismiss_handle]
  · rw [dismiss_handle]
    intro running
    cases running

theorem Listens.release (listens : session.Listens) : session.releaseBackground.Listens := by
  refine listens.keep (fun _ _ here _ => ?_) (fun _ => ?_) ?_ fun runs => ?_
  · rwa [releaseBackground_stage?] at here
  · rw [releaseBackground_world]
  · rw [releaseBackground_handle]
  · rw [releaseBackground_handle] at runs ⊢
    exact ⟨runs, rfl⟩

theorem Listens.enlist (listens : session.Listens) (numbered : session.world.IsNumbered)
    {process : Process} (next : process.pid = World.firstPid + session.world.processes.length)
    (silent : process.errors = {}) : (session.enlist process).Listens :=
  listens.keep (fun _ _ here _ => here)
    (fun other => World.read_enlist numbered next silent other) rfl fun runs => ⟨runs, rfl⟩

theorem takeChunks_errors_of_ne {pid other : Pid} (taken left : List (List UInt8))
    (different : other ≠ pid) :
    (session.takeChunks pid taken left).world.errors other = session.world.errors other :=
  @World.errors_alter_of_ne session.world pid
    (fun process => { process with errors := process.errors.afterReading taken left })
    (fun _ => rfl) other different

theorem takeChunks_errors_self {pid : Pid} (taken left : List (List UInt8))
    (known : session.world.Knows pid) :
    (session.takeChunks pid taken left).world.errors pid =
      (session.world.errors pid).afterReading taken left := by
  obtain ⟨process, -, before, after⟩ := @World.errors_alter_self session.world pid
    (fun process => { process with errors := process.errors.afterReading taken left })
    (fun _ => rfl) known
  exact after.trans (congrArg (Stream.afterReading · taken left) before.symm)

/-- More that is read from a process adds to what it has shown. -/
theorem shown_takeChunks {pid : Pid} (taken left : List (List UInt8))
    (known : session.world.Knows pid) (other : Pid) :
    (session.world.errors other).shown <+:
      ((session.takeChunks pid taken left).world.errors other).shown := by
  by_cases same : other = pid
  · subst same
    rw [takeChunks_errors_self taken left known]
    exact Stream.shown_append _ taken left
  · have unread : (session.takeChunks pid taken left).world.errors other =
        session.world.errors other := takeChunks_errors_of_ne taken left same
    exact unread ▸ List.prefix_refl _

/-- More is read from a process to which no attempt listens. -/
theorem Listens.overhear (listens : session.Listens) (stands : session.Stands phase) {pid : Pid}
    (known : session.world.Knows pid) (old : phase.young? ≠ some pid)
    (taken left : List (List UInt8)) : (session.takeChunks pid taken left).Listens where
  silent other heard here := by
    have spawning := stands.eq_of_stage? here rfl
    have different : heard ≠ pid := by
      rintro rfl
      exact old (spawning ▸ rfl)
    rw [takeChunks_errors_of_ne taken left different]
    exact listens.silent other heard here
  heard other heard readiness here := by
    have waking := stands.eq_of_stage? here rfl
    have different : heard ≠ pid := by
      rintro rfl
      exact old (waking ▸ rfl)
    rw [takeChunks_errors_of_ne taken left different]
    exact listens.heard other heard readiness here
  shown runs := by
    obtain ⟨current, marker, same, setting, inside⟩ := listens.shown runs
    exact ⟨current, marker, same, setting,
      inside.trans (shown_takeChunks taken left known current).isInfix⟩

/-- An attempt that reads more of what its process shows knows the end of it still. -/
theorem Listens.read (listens : session.Listens) (stands : session.Stands phase) {pid : Pid}
    {readiness next : Readiness} {taken left : List (List UInt8)}
    (found : session.stage? id = some (.awaitReady pid readiness))
    (follows : next.Follows readiness taken.flatten) :
    ((session.takeChunks pid taken left).moveTo id (.awaitReady pid next)).Listens := by
  have waking := stands.eq_of_stage? found rfl
  subst waking
  have standing : (session.takeChunks pid taken left).stage? id = _ := found
  have after : ((session.takeChunks pid taken left).moveTo id (.awaitReady pid next)).Stands
      (.waking id pid) := (stands.reading pid taken left).moveTo standing rfl (.inl rfl)
  constructor
  · intro other heard here
    cases after.eq_of_stage? here rfl
  · intro other heard known here
    cases after.eq_of_stage? here rfl
    rw [stage?_moveTo_self (lt_of_stage? standing)] at here
    cases here
    obtain ⟨decoder, tail⟩ := listens.heard id pid readiness found
    rw [moveTo_world, takeChunks_errors_self taken left (stands.known rfl), Stream.shown,
      Stream.read_afterReading, Utf8.Decoder.feed_append, ← decoder]
    refine ⟨follows.decoder, follows.tail.trans ?_⟩
    obtain ⟨before, same⟩ := tail
    rw [Stream.shown] at same
    exact ⟨before, by rw [← List.append_assoc, same]⟩
  · intro runs
    have starting : session.handle.status = .starting := stands.status
    have running : session.handle.status = .running := runs
    rw [starting] at running
    cases running

/-- An attempt gets a process, from which nothing was read. -/
theorem Listens.spawn (stands : session.Stands phase)
    (found : session.stage? id = some .attempt) (starting : session.handle.status = .starting)
    {process : Process} (next : process.pid = World.firstPid + session.world.processes.length)
    (daemon : process.isDaemon) (silent : process.errors = {}) :
    ((session.enlist process).moveTo id (.awaitSpawn process.pid)).Listens := by
  have after := stands.spawn found starting next daemon
  constructor
  · intro other heard here
    cases after.eq_of_stage? here rfl
    change ((session.world.enlist process).errors process.pid).read = []
    rw [World.errors, World.process?_enlist stands.numbered next]
    exact congrArg Stream.read silent
  · intro other heard known here
    cases after.eq_of_stage? here rfl
  · intro runs
    have running : session.handle.status = .running := runs
    rw [starting] at running
    cases running

/-- An attempt whose process has its pipes begins to listen. -/
theorem Listens.attach (listens : session.Listens) (stands : session.Stands phase) {pid : Pid}
    (found : session.stage? id = some (.awaitSpawn pid)) :
    ((session.withProcess (some pid)).moveTo id (.awaitReady pid {})).Listens := by
  have after := stands.attach found
  constructor
  · intro other heard here
    cases after.eq_of_stage? here rfl
  · intro other heard known here
    cases after.eq_of_stage? here rfl
    rw [stage?_moveTo_self (by exact lt_of_stage? found)] at here
    cases here
    rw [moveTo_world, withProcess_world, listens.silent id pid found]
    exact ⟨rfl, List.nil_suffix⟩
  · intro runs
    have starting : session.handle.status = .starting := after.status
    have running : session.handle.status = .running := runs
    rw [starting] at running
    cases running

/-- A daemon becomes ready as soon as the marker is part of what its process has shown. -/
theorem Listens.ready (listens : session.Listens) (stands : session.Stands phase) {pid : Pid}
    {readiness : Readiness} {marker : String}
    (found : session.stage? id = some (.awaitReady pid readiness))
    (setting : session.handle.settings.readyMarker = some marker)
    (shown : marker.toList <:+: readiness.tail) (diagnostics : Diagnostics) :
    (session.becomeReady id pid diagnostics).Listens := by
  have after := stands.ready found diagnostics
  constructor
  · intro other heard here
    cases after.eq_of_stage? here rfl
  · intro other heard known here
    cases after.eq_of_stage? here rfl
  · intro _
    have tail := (listens.heard id pid readiness found).2
    exact ⟨pid, marker, after.process, setting, shown.trans tail.isInfix⟩

theorem Listens.step {mover : Option TaskId} (stands : session.Stands phase)
    (listens : session.Listens) (step : Step mover session after) : after.Listens := by
  cases step with
  | quiet quiet =>
      refine listens.keep (fun _ _ here _ => ?_) (fun pid => ?_) quiet.settings fun runs => ?_
      · rwa [stage?_of_tasks quiet.tasks] at here
      · rw [quiet.errors]
      · obtain ⟨_, _, _, _, _, rfl, -, -⟩ := quiet
        exact ⟨runs, rfl⟩
  | develop pid change continues => exact listens.alter pid continues
  | call stage call => exact listens.begin (Stage.isListening_of_isCall call)
  | @cancel _ id stage found caller =>
      refine listens.keep (fun _ _ here _ => ?_) (fun _ => rfl) rfl fun runs => ⟨runs, rfl⟩
      rwa [stage?_requestCancel] at here
  | yield found yielding flagged => exact listens.moveTo _ rfl
  | greet found running text => exact listens.moveTo _ rfl
  | ask found notRunning free =>
      refine Listens.moveTo ?_ _ rfl
      exact (listens.begin rfl).halt rfl (fun _ => rfl) rfl notRunning
  | join found notRunning memo => exact listens.moveTo _ rfl
  | leave found ended passes => exact (listens.forget _).moveTo _ rfl
  | abandon found flagged => exact (listens.forget _).moveTo _ rfl
  | enter found => exact listens.halt rfl (fun _ => rfl) rfl nofun
  | refuse found starting fault =>
      refine Listens.moveTo ?_ _ rfl
      exact listens.halt rfl (fun _ => rfl) rfl nofun
  | collapse found starting fault => exact listens.moveTo _ rfl
  | spawn found starting process next daemon alive silent =>
      exact Listens.spawn stands found starting next daemon silent
  | attach found => exact listens.attach stands found
  | read found taken left follows => exact listens.read stands found follows
  | close found => exact listens.moveTo _ rfl
  | ready found setting shown diagnostics =>
      exact listens.ready stands found setting shown diagnostics
  | abort found waking fault =>
      refine Listens.moveTo ?_ _ rfl
      exact listens.halt rfl (fun _ => rfl) rfl nofun
  | fail found exited => exact listens.moveTo _ rfl
  | relay found taken left later =>
      obtain ⟨known, old⟩ := stands.charges _ _ _ found rfl
      exact (listens.overhear stands known old taken left).moveTo _ rfl
  | relayed found finished own => exact listens.moveTo _ rfl
  | notice found exited current =>
      refine Listens.moveTo ?_ _ rfl
      exact listens.halt rfl (fun _ => rfl) rfl nofun
  | overlook found exited other => exact listens.moveTo _ rfl
  | decline found notRunning => exact listens.moveTo _ rfl
  | @dismiss _ id pid found running current message =>
      exact (listens.dismiss pid message).moveTo _ rfl
  | release found exited => exact listens.release.moveTo _ rfl
  | rest found finished own => exact listens.moveTo _ rfl
  | @evaluate _ id stage later found evaluation goes alter moves =>
      have deaf := Stage.isListening_of_goes goes
      refine listens.keep (fun _ _ here listening => ?_) (fun _ => rfl) rfl fun runs => ⟨runs, rfl⟩
      rw [stage?_alterTask moves] at here
      exact stage?_moveTo_listening deaf here listening
  | spawnClient found running process next client silent =>
      exact (listens.enlist stands.numbered next silent).moveTo _ rfl

end Listening

end Session

end EmacsSession
