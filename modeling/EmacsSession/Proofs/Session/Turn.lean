/-
This file shows that whatever happens in a session is made of small steps.
-/

import EmacsSession.Proofs.Session.Spawning

namespace EmacsSession.Session

open Relation

section Moves

variable {session : Session} {id : TaskId}

theorem moveTo_moveTo (first second : Stage) :
    (session.moveTo id first).moveTo id second = session.moveTo id second := by
  have same : ((session.tasks.modify id fun task => { task with stage := first }).modify id
      fun task => { task with stage := second }) =
      session.tasks.modify id fun task => { task with stage := second } :=
    List.modify_modify_eq _ _ _ _
  simp only [moveTo, alterTask, same]

theorem moveTo_self {stage : Stage} (found : session.stage? id = some stage) :
    session.moveTo id stage = session := by
  obtain ⟨task, present, same⟩ := Option.map_eq_some_iff.mp found
  have unchanged :
      (session.tasks.modify id fun task => { task with stage := stage }) = session.tasks := by
    apply List.ext_getElem?
    intro other
    rw [List.getElem?_modify]
    by_cases here : id = other
    · subst here
      rw [present, ← same]
      simp
    · simp [here]
  simp only [moveTo, alterTask, unchanged]

/-- A task may go on from any stage in which it stands. -/
theorem Steps.ofStage {stage : Stage} {mover : Option TaskId} {after : Session}
    (found : session.stage? id = some stage) (steps : Steps mover (session.moveTo id stage) after) :
    Steps mover session after := by
  rwa [moveTo_self found] at steps

end Moves

/-- A step, where the session that it leads to has a simpler form. -/
theorem Step.steps {mover : Option TaskId} {before after same : Session}
    (step : Step mover before after) (equal : after = same) : Steps mover before same :=
  equal ▸ .single step

section Quiet

variable {before middle after : Session}

theorem Quiet.refl (session : Session) : Quiet session session :=
  ⟨_, _, _, _, _, rfl, List.suffix_refl _, rfl⟩

theorem Quiet.trans (first : Quiet before middle) (second : Quiet middle after) :
    Quiet before after := by
  obtain ⟨_, _, _, _, _, rfl, more, same⟩ := first
  obtain ⟨_, _, _, _, _, rfl, further, still⟩ := second
  exact ⟨_, _, _, _, _, rfl, more.trans further, still.trans same⟩

theorem Quiet.note (session : Session) {deed : Deed} (silent : deed.status? = none) :
    Quiet session (session.note deed) :=
  ⟨_, _, _, _, _, rfl, List.suffix_cons _ _, by simp [statuses, silent]⟩

theorem Quiet.foldl_logChunk (texts : List (List Char)) (session : Session) :
    Quiet session (texts.foldl logChunk session) := by
  induction texts generalizing session with
  | nil => exact Quiet.refl session
  | cons text texts inductionHypothesis =>
      exact (Quiet.note session rfl).trans (inductionHypothesis (session.logChunk text))

theorem Quiet.foldl_logDiagnostic (lines : List (List Char)) (session : Session) :
    Quiet session (lines.foldl logDiagnostic session) := by
  induction lines generalizing session with
  | nil => exact Quiet.refl session
  | cons line lines inductionHypothesis =>
      exact (Quiet.note session rfl).trans (inductionHypothesis (session.logDiagnostic line))

theorem Quiet.wake (session : Session) : Quiet session session.wake :=
  ⟨_, _, _, _, _, rfl, List.suffix_refl _, rfl⟩

theorem Quiet.moveTo (quiet : Quiet before after) (id : TaskId) (stage : Stage) :
    Quiet (before.moveTo id stage) (after.moveTo id stage) := by
  obtain ⟨_, _, _, _, _, rfl, more, same⟩ := quiet
  exact ⟨_, _, _, _, _, rfl, more, same⟩

theorem Quiet.steps (quiet : Quiet before after) (mover : Option TaskId) :
    Steps mover before after :=
  .single (.quiet quiet)

theorem Quiet.status (quiet : Quiet before after) :
    after.handle.status = before.handle.status := by
  obtain ⟨_, _, _, _, _, rfl, -, -⟩ := quiet
  rfl

theorem Quiet.errors (quiet : Quiet before after) : after.world.errors = before.world.errors := by
  obtain ⟨_, _, _, _, _, rfl, -, -⟩ := quiet
  rfl

theorem Quiet.tasks (quiet : Quiet before after) : after.tasks = before.tasks := by
  obtain ⟨_, _, _, _, _, rfl, -, -⟩ := quiet
  rfl

theorem Quiet.settings (quiet : Quiet before after) :
    after.handle.settings = before.handle.settings := by
  obtain ⟨_, _, _, _, _, rfl, -, -⟩ := quiet
  rfl

end Quiet

section Spawns

variable {session after : Session} {id : TaskId} {role : Role} {arguments : List String}
  {input output errors : Connection} {fault : Fault} {pid : Pid}

/-- A spawn that is refused changes nothing that matters. -/
theorem SpawnsAs.quiet
    (spawns : session.SpawnsAs id role arguments input output errors (.error fault) after) :
    Quiet session after := by
  obtain ⟨severity, message, hiring⟩ := spawns.hiring
  cases hiring with
  | refused fault plans =>
      have logs : Quiet session (session.log severity message) := Quiet.note session rfl
      exact logs.trans ⟨_, _, plans, _, _, rfl, List.suffix_cons _ _, rfl⟩

/-- A spawn that succeeds adds a process, and changes nothing else that matters. -/
theorem SpawnsAs.grown
    (spawns : session.SpawnsAs id role arguments input output errors (.ok pid) after) :
    ∃ process, process.pid = pid ∧ session.world.IsRecruit id role arguments process ∧
      Quiet (session.enlist process) after := by
  obtain ⟨severity, message, hiring⟩ := spawns.hiring
  cases hiring with
  | hired process recruit plans =>
      have logs : Quiet (session.enlist process) ((session.enlist process).log severity message) :=
        Quiet.note (session.enlist process) rfl
      exact ⟨process, rfl, recruit,
        logs.trans ⟨_, _, plans, _, _, rfl, List.suffix_cons _ _, rfl⟩⟩

end Spawns

section Attempt

variable {session : Session} {id : TaskId} {pid : Pid}

/-- An attempt that failed ends when its process has ended. -/
theorem awaitEnd_steps (present : id < session.tasks.length) (fault : Fault) :
    Steps (some id) (session.moveTo id (.awaitEnd pid fault))
      (if session.hasExited pid then session.finish id (.failed fault)
        else session.moveTo id (.awaitEnd pid fault)) := by
  split
  next exited =>
    exact (Step.fail (stage?_moveTo_self present) exited).steps (moveTo_moveTo _ _)
  next => exact .refl

/-- An attempt fails, and it stands in its last stage until its process has ended. -/
theorem failAttempt_steps (present : id < session.tasks.length) {stage : Stage}
    (waking : stage.isWaking pid) (fault : Fault) :
    Steps (some id) (session.moveTo id stage) (session.failAttempt id pid fault) := by
  have aborted := (Step.abort (stage?_moveTo_self present) waking fault).steps
    (@moveTo_moveTo ((session.withProcess none).become .stopped) id stage (.awaitEnd pid fault))
  have killed (halted : Session) : Steps (some id) (halted.moveTo id (.awaitEnd pid fault))
      ((if halted.hasExited pid then halted else halted.kill pid).moveTo id
        (.awaitEnd pid fault)) := by
    split
    next => exact .refl
    next =>
      exact .head (.develop pid Process.kill Process.kill_continues)
        (((Quiet.note (halted.alterProcess pid Process.kill) rfl).moveTo id _).steps _)
  refine (aborted.trans (killed _)).trans (awaitEnd_steps ?_ fault)
  split <;> exact present

theorem failWithCode_steps (present : id < session.tasks.length) {stage : Stage}
    (waking : stage.isWaking pid)
    (closing : Steps (some id) (session.moveTo id stage) (session.moveTo id (.awaitCode pid))) :
    Steps (some id) (session.moveTo id stage) (session.failWithCode id pid) := by
  rw [failWithCode]
  split
  · exact failAttempt_steps present waking _
  · exact closing

theorem becomeReady_moveTo (present : id < session.tasks.length) (stage : Stage)
    (diagnostics : Diagnostics) :
    (session.moveTo id stage).becomeReady id pid diagnostics =
      session.becomeReady id pid diagnostics := by
  have tasks (more : List Task) :
      ((session.tasks.modify id fun task => { task with stage := stage }) ++ more).modify id
        (fun task => { task with stage := .ended (.returned none) }) =
      (session.tasks ++ more).modify id
        (fun task => { task with stage := .ended (.returned none) }) := by
    rw [modify_append_of_lt (by simpa using present), modify_append_of_lt present,
      List.modify_modify_eq]
    rfl
  simp [becomeReady, moveTo, alterTask, begin, become, withHandle, note, subject,
    List.append_assoc, tasks]

/-- The reading goes on up to what is known in the end, and each outcome leads on from there. -/
theorem readUntilReady_steps (present : id < session.tasks.length) (readiness : Readiness) :
    Steps (some id) (session.moveTo id (.awaitReady pid readiness))
      (session.readUntilReady id pid readiness) := by
  rw [readUntilReady]
  dsimp only
  split
  next => exact failAttempt_steps present (Stage.isWaking_awaitReady pid readiness) _
  next => exact failAttempt_steps present (Stage.isWaking_awaitReady pid readiness) _
  next marker setting _ =>
    generalize (session.world.errors pid).coming = chunks
    obtain ⟨tells, -⟩ := readiness.run_tells marker.toList chunks
    generalize readiness.run marker.toList chunks = result at tells
    let taken := chunks.take result.texts.length
    let logged := result.texts.foldl logChunk (session.takeChunks pid taken result.left)
    have reading (later : Readiness) (follows : later.Follows readiness taken.flatten) :
        Steps (some id) (session.moveTo id (.awaitReady pid readiness))
          (logged.moveTo id (.awaitReady pid later)) :=
      ((Step.read (stage?_moveTo_self present) taken result.left follows).steps
        (@moveTo_moveTo (session.takeChunks pid taken result.left) id _ _)).trans
        (((Quiet.foldl_logChunk result.texts _).moveTo id _).steps _)
    have quiet := Quiet.foldl_logChunk result.texts (session.takeChunks pid taken result.left)
    have here : id < logged.tasks.length := quiet.tasks ▸ present
    let known : Readiness :=
      ⟨(readiness.decoder.feed taken.flatten).1,
        readiness.tail ++ (readiness.decoder.feed taken.flatten).2⟩
    have knowing := reading known ⟨rfl, List.suffix_refl _⟩
    split
    next decoder rest outcome =>
      rw [outcome] at tells
      have standing : (logged.moveTo id (.awaitReady pid known)).stage? id =
          some (.awaitReady pid known) := stage?_moveTo_self here
      have ready := Step.ready standing
        ((congrArg Settings.readyMarker quiet.settings).trans setting) tells ⟨decoder, rest⟩
      exact knowing.trans (ready.steps (becomeReady_moveTo here _ _))
    next outcome =>
      exact knowing.trans (failAttempt_steps here (Stage.isWaking_awaitReady pid known) _)
    next later outcome =>
      rw [outcome] at tells
      split
      next =>
        have waking := Stage.isWaking_awaitReady pid later
        refine (reading later tells).trans (failWithCode_steps here waking ?_)
        exact (Step.close (stage?_moveTo_self here)).steps (moveTo_moveTo _ _)
      next => exact reading later tells

theorem attach_steps (present : id < session.tasks.length) :
    Steps (some id) (session.moveTo id (.awaitSpawn pid)) (session.attach id pid) := by
  rw [attach]
  split
  next =>
    have attached := (Step.attach (stage?_moveTo_self present)).steps
      (@moveTo_moveTo (session.withProcess (some pid)) id (.awaitSpawn pid) (.awaitReady pid {}))
    have here : id < (session.withProcess (some pid)).tasks.length := present
    exact attached.trans (readUntilReady_steps here {})
  next => exact .refl

theorem refuse_steps (present : id < session.tasks.length)
    (starting : session.handle.status = .starting) (fault : Fault) :
    Steps (some id) (session.moveTo id .attempt)
      ((session.become .stopped).finish id (.failed fault)) :=
  (Step.refuse (stage?_moveTo_self present) starting fault).steps
    (@moveTo_moveTo (session.become .stopped) id _ _)

theorem collapse_steps (present : id < session.tasks.length)
    (starting : session.handle.status = .starting) (fault : Fault) :
    Steps (some id) (session.moveTo id .attempt) (session.finish id (.failed fault)) :=
  (Step.collapse (stage?_moveTo_self present) starting fault).steps (moveTo_moveTo _ _)

theorem launch_steps (present : id < session.tasks.length)
    (starting : session.handle.status = .starting) (directory : Path) :
    Steps (some id) (session.moveTo id .attempt) (session.launch id directory) := by
  cases launch_launches session id directory with
  | refused spawns runs =>
      have quiet := spawns.quiet
      rw [runs]
      apply ((quiet.moveTo id _).steps _).trans
      exact refuse_steps (quiet.tasks ▸ present) (quiet.status.trans starting) _
  | unfit spawns odd runs =>
      have quiet := spawns.quiet
      rw [runs]
      apply ((quiet.moveTo id _).steps _).trans
      exact collapse_steps (quiet.tasks ▸ present) (quiet.status.trans starting) _
  | hired spawns runs =>
      obtain ⟨process, rfl, recruit, grown⟩ := spawns.grown
      have daemon : process.isDaemon := by rw [Process.isDaemon, recruit.role]
      have spawned := (Step.spawn (stage?_moveTo_self present) starting process recruit.next daemon
        recruit.alive recruit.silent).steps (@moveTo_moveTo (session.enlist process) id _ _)
      rw [runs]
      refine (spawned.trans ((grown.moveTo id _).steps _)).trans (attach_steps ?_)
      exact grown.tasks ▸ present

/-- The attempt notes that it begins before anything can go wrong. -/
theorem runAttempt_steps (present : id < session.tasks.length) :
    Steps (some id) (session.moveTo id .attempt) (session.runAttempt id) := by
  have entered := ReflTransGen.single (Step.enter (stage?_moveTo_self present))
  apply entered.trans
  let entering := session.become .starting
  have starting : entering.handle.status = .starting := rfl
  have here : id < entering.tasks.length := present
  have tried (disk : Disk) : Steps (some id) (entering.moveTo id .attempt)
      ((entering.onDisk disk).moveTo id .attempt) := by
    have quiet : Quiet entering (entering.onDisk disk) :=
      ⟨_, _, _, _, _, rfl, List.suffix_refl _, rfl⟩
    exact (quiet.moveTo id _).steps _
  cases runAttempt_attempts session id with
  | reuses current runs => exact runs ▸ launch_steps here starting _
  | @makes directory disk vacant made runs =>
      have adopts : Quiet (entering.onDisk disk) ((entering.onDisk disk).adopt directory) :=
        ⟨_, _, _, _, _, rfl, List.suffix_cons _ _, rfl⟩
      rw [runs]
      apply ((tried disk).trans ((adopts.moveTo id _).steps _)).trans
      exact @launch_steps ((entering.onDisk disk).adopt directory) id here starting directory
  | @refused error disk vacant made runs =>
      exact runs ▸ (tried disk).trans (@refuse_steps (entering.onDisk disk) id here starting _)
  | @unfit fault disk vacant made odd runs =>
      exact runs ▸ (tried disk).trans (@collapse_steps (entering.onDisk disk) id here starting _)

end Attempt

section Callers

variable {session : Session} {id : TaskId}

theorem ending?_moveTo_of_ne {other : TaskId} (different : other ≠ id) (stage : Stage) :
    (session.moveTo id stage).ending? other = session.ending? other := by
  rw [ending?, ending?, stage?_moveTo_of_ne different]

theorem hasEnded_moveTo_of_ne {other : TaskId} (different : other ≠ id) (stage : Stage) :
    (session.moveTo id stage).hasEnded other = session.hasEnded other := by
  rw [hasEnded, hasEnded, ending?_moveTo_of_ne different]

theorem forget_moveTo {attempt : TaskId} (different : attempt ≠ id) (first second : Stage) :
    ((session.moveTo id first).forget attempt).moveTo id second =
      (session.forget attempt).moveTo id second := by
  have same : (session.moveTo id first).forget attempt =
      (session.forget attempt).moveTo id first := by
    simp only [forget, hasEnded_moveTo_of_ne different, moveTo_handle]
    split <;> rfl
  rw [same, moveTo_moveTo]

/-- A caller that has not ended waits for an attempt, or ends as the attempt did. -/
theorem joinAttempt_steps (present : id < session.tasks.length) {attempt : TaskId}
    (different : attempt ≠ id) (enters : Bool) :
    Steps (some id) (session.moveTo id (.awaitAttempt attempt enters))
      (session.joinAttempt id attempt enters) := by
  have leaves {ending outcome : Ending} (ended : session.ending? attempt = some ending)
      (passes : ending.Passes outcome) :
      Steps (some id) (session.moveTo id (.awaitAttempt attempt enters))
        ((session.forget attempt).finish id outcome) :=
    (Step.leave (stage?_moveTo_self present) ((ending?_moveTo_of_ne different _).trans ended)
      passes).steps (forget_moveTo different _ _)
  rw [joinAttempt]
  split
  next => exact .refl
  next ended => exact leaves ended (.returned _ _)
  next ending other ended =>
    cases ending with
    | returned text => exact absurd rfl (other text)
    | failed fault => exact leaves ended (.failed fault)
    | cancelled => exact leaves ended .cancelled

theorem joinAttempt_self (unended : session.ending? id = none) (enters : Bool) :
    session.joinAttempt id id enters = session.moveTo id (.awaitAttempt id enters) := by
  rw [joinAttempt, unended]

theorem runStart_steps {enters : Bool} (found : session.stage? id = some (.start enters)) :
    Steps (some id) session (session.runStart id enters) := by
  have present := lt_of_stage? found
  rw [runStart]
  split
  next running => exact .single (.greet found (by simpa using running) _)
  next notRunning =>
    replace notRunning : session.handle.status ≠ .running := by simpa using notRunning
    split
    next attempt memo =>
      by_cases self : attempt = id
      · subst self
        rw [joinAttempt_self (by rw [ending?, found]; rfl)]
        exact .single (.join found notRunning memo)
      · exact .head (.join found notRunning memo) (joinAttempt_steps present self enters)
    next free =>
      have fresh : session.tasks.length ≠ id := Nat.ne_of_gt present
      have asked := Step.ask found notRunning free
      refine (ReflTransGen.single asked).trans (joinAttempt_steps ?_ fresh enters)
      simp only [withHandle_tasks, begin_tasks, List.length_append]
      exact Nat.lt_add_right 1 present

theorem joinBackground_steps {tasks : List TaskId}
    (found : session.stage? id = some (.awaitBackground tasks)) {outcome : Ending}
    (own : outcome = .returned none ∨ outcome = .cancelled) :
    Steps (some id) session (session.joinBackground id tasks outcome) := by
  rw [joinBackground]
  split
  next finished => exact .single (.rest found finished own)
  next => rw [moveTo_self found]

end Callers

section Background

variable {session : Session} {id : TaskId} {pid : Pid}

theorem requestCancel_moveTo {stage : Stage} (unended : session.hasEnded id = false)
    (going : stage.ending? = none) (other : TaskId) :
    (session.moveTo id stage).requestCancel other =
      (session.requestCancel other).moveTo id stage := by
  have tasks : ((session.tasks.modify id fun task => { task with stage := stage }).modify other
      fun task => if task.hasEnded then task else { task with isCancelled := true }) =
      (session.tasks.modify other
        fun task => if task.hasEnded then task else { task with isCancelled := true }).modify id
          fun task => { task with stage := stage } := by
    apply List.ext_getElem?
    intro index
    simp only [List.getElem?_modify]
    by_cases here : id = index
    · subst here
      cases found : session.tasks[id]? with
      | none => simp
      | some task =>
          have lasting : task.stage.ending? = none := by
            simpa [hasEnded, ending?, stage?, found] using unended
          by_cases same : other = id <;> simp [same, Task.hasEnded, lasting, going]
    · simp [here]
  simp only [requestCancel, moveTo, alterTask, tasks]

theorem hasEnded_requestCancel (other : TaskId) :
    (session.requestCancel other).hasEnded = session.hasEnded := by
  funext task
  rw [hasEnded, hasEnded, ending?, ending?, stage?_requestCancel]

theorem foldl_requestCancel_moveTo {stage : Stage} (unended : session.hasEnded id = false)
    (going : stage.ending? = none) (tasks : List TaskId) :
    tasks.foldl requestCancel (session.moveTo id stage) =
      (tasks.foldl requestCancel session).moveTo id stage := by
  induction tasks generalizing session with
  | nil => rfl
  | cons task tasks inductionHypothesis =>
      rw [List.foldl_cons, requestCancel_moveTo unended going, inductionHypothesis, List.foldl_cons]
      rwa [hasEnded_requestCancel]

theorem releaseBackground_moveTo {stage : Stage} (unended : session.hasEnded id = false)
    (going : stage.ending? = none) :
    (session.moveTo id stage).releaseBackground = session.releaseBackground.moveTo id stage := by
  have given : (session.withHandle fun handle =>
      { handle with background := [] }).hasEnded id = false := unended
  exact foldl_requestCancel_moveTo given going session.handle.background

/-- A caller that waits for no background task ends at once. -/
theorem awaitNone_steps (present : id < session.tasks.length) (tasks : List TaskId) :
    Steps (some id) (session.moveTo id (.awaitBackground tasks))
      (if tasks.isEmpty then session.finish id (.returned none)
        else session.moveTo id (.awaitBackground tasks)) := by
  cases tasks with
  | nil => exact (Step.rest (stage?_moveTo_self present) rfl (.inl rfl)).steps (moveTo_moveTo _ _)
  | cons task tasks => exact .refl

/-- A caller whose daemon has ended gives the background tasks up and waits for their end. -/
theorem awaitExit_steps (unended : session.hasEnded id = false)
    (present : id < session.tasks.length) :
    Steps (some id) (session.moveTo id (.awaitTermination pid)) (session.awaitExit id pid) := by
  rw [awaitExit]
  split
  next exited =>
    have step := Step.release (stage?_moveTo_self present) exited
    have released := step.steps ((congrArg (Session.moveTo · id (.awaitBackground _))
      (releaseBackground_moveTo unended rfl)).trans (moveTo_moveTo _ _))
    have here : id < session.releaseBackground.tasks.length := by
      rwa [length_releaseBackground]
    exact released.trans (awaitNone_steps here session.handle.background)
  next => exact .refl

/-- A caller that asks for a running daemon to stop dismisses it and waits for its end. -/
theorem runStop_dismissed (found : session.stage? id = some .stop)
    (running : session.handle.status = .running) (current : session.handle.process = some pid) :
    Steps (some id)
      ((session.dismiss pid ("Stopping " ++ session.subject)).moveTo id (.awaitTermination pid))
      (session.runStop id) := by
  have stopping : session.runStop id =
      (session.dismiss pid ("Stopping " ++ session.subject)).awaitExit id pid := by
    simp only [runStop, running, current]
    rfl
  rw [stopping]
  refine awaitExit_steps ?_ ?_
  · rw [hasEnded, ending?, stage?_dismiss, found]
    rfl
  · rw [dismiss_tasks]
    exact lt_of_stage? found

theorem runStop_steps (found : session.stage? id = some .stop)
    (live : session.handle.status = .running → session.handle.process ≠ none) :
    Steps (some id) session (session.runStop id) := by
  by_cases running : session.handle.status = .running
  · obtain ⟨pid, current⟩ := Option.ne_none_iff_exists'.mp (live running)
    exact .head (.dismiss found running current _) (runStop_dismissed found running current)
  · have declines : session.runStop id = session.finish id (.returned none) := by
      simp [runStop, running]
    exact declines ▸ .single (.decline found running)

theorem takeChunks_errors (session : Session) (taken left : List (List UInt8)) {View : Type}
    (view : Stream → View)
    (same : ∀ stream, view (stream.afterReading taken left) = view stream) (other : Pid) :
    view ((session.takeChunks pid taken left).world.errors other) =
      view (session.world.errors other) :=
  @World.errors_alter session.world pid
    (fun process => { process with errors := process.errors.afterReading taken left })
    (fun _ => rfl) other _ view fun process => same process.errors

theorem runRelay_steps {diagnostics : Diagnostics}
    (found : session.stage? id = some (.relay pid diagnostics)) :
    Steps (some id) session (session.runRelay id pid diagnostics) := by
  have present := lt_of_stage? found
  rw [runRelay]
  dsimp only
  split
  next error broken =>
    have finished : session.world.IsOver pid := .inr (by rw [broken]; rfl)
    have own : Ending.failed (.system error) ≠ .cancelled := nofun
    exact .head (.relayed found finished own)
      (((Quiet.foldl_logDiagnostic _ session).moveTo id _).steps _)
  next =>
    generalize diagnostics.run (session.world.errors pid).coming = ran
    obtain ⟨messages, later⟩ := ran
    generalize (session.world.errors pid).coming = chunks
    have reading := ReflTransGen.single (Step.relay found chunks [] later)
    have quiet := Quiet.foldl_logDiagnostic messages (session.takeChunks pid chunks [])
    apply (reading.trans ((quiet.moveTo id _).steps _)).trans
    dsimp only
    split
    next closed =>
      replace present : id < (messages.foldl logDiagnostic
          (session.takeChunks pid chunks [])).tasks.length := quiet.tasks ▸ present
      have still : ((messages.foldl logDiagnostic
          (session.takeChunks pid chunks [])).world.errors pid).isClosed := by
        rw [quiet.errors, takeChunks_errors session chunks [] Stream.isClosed (fun _ => rfl)]
        exact closed
      have own : Ending.returned none ≠ .cancelled := nofun
      refine .trans ((Step.relayed (stage?_moveTo_self present) (.inl still) own).steps
        (moveTo_moveTo _ _)) ?_
      exact ((Quiet.foldl_logDiagnostic _ _).moveTo id _).steps _
    next => exact .refl

theorem runWatch_steps (found : session.stage? id = some (.watch pid)) :
    Steps (some id) session (session.runWatch id pid) := by
  rw [runWatch]
  split
  next =>
    rw [moveTo_self found]
  next code exited =>
    have ended : session.hasExited pid := by rw [hasExited, World.hasExited, exited]; rfl
    dsimp only
    split
    next current =>
      refine .head (.notice found ended (by simpa using current)) ?_
      exact ((Quiet.note _ rfl).moveTo id _).steps _
    next other => exact .single (.overlook found ended (by simpa using other))

end Background

section Evaluation

variable {session : Session} {id : TaskId} {pid : Pid} {stage later : Stage}

theorem evaluate_steps (present : id < session.tasks.length) (evaluation : stage.isEvaluation)
    (goes : later.isEvaluation ∨ later.ending?.isSome) :
    Steps (some id) (session.moveTo id stage) (session.moveTo id later) :=
  (Step.evaluate (stage?_moveTo_self present) evaluation goes
    (fun task => { task with stage := later }) (fun _ => rfl) fun _ flagged => flagged).steps
      (moveTo_moveTo _ _)

theorem endClient_steps (present : id < session.tasks.length) (evaluation : stage.isEvaluation)
    (ending : Ending) :
    Steps (some id) (session.moveTo id stage)
      (if session.hasExited pid then session.finish id ending
        else session.alterTask id fun _ => { stage := .awaitClientEnd pid ending }) := by
  split
  next => exact evaluate_steps present evaluation (.inr rfl)
  next =>
    have moved : (session.moveTo id stage).stage? id = some stage := stage?_moveTo_self present
    refine (Step.evaluate moved evaluation (.inl rfl)
      (fun _ => { stage := .awaitClientEnd pid ending }) (fun _ => rfl) (by simp)).steps ?_
    have tasks : ((session.tasks.modify id fun task => { task with stage := stage }).modify id
        fun _ => { stage := .awaitClientEnd pid ending }) =
        session.tasks.modify id fun _ => { stage := .awaitClientEnd pid ending } :=
      List.modify_modify_eq _ _ _ _
    simp only [alterTask, moveTo, tasks]

/-- A caller that gives its client up waits until the client has ended. -/
theorem abandonClient_steps (present : id < session.tasks.length)
    (evaluation : stage.isEvaluation) (ending : Ending) :
    Steps (some id) (session.moveTo id stage) (session.abandonClient id pid ending) := by
  have killed : Steps (some id) (session.moveTo id stage)
      ((if session.hasExited pid then session else session.kill pid).moveTo id stage) := by
    split
    next => exact .refl
    next =>
      exact .head (.develop pid Process.kill Process.kill_continues)
        (((Quiet.note (session.alterProcess pid Process.kill) rfl).moveTo id _).steps _)
  refine killed.trans (endClient_steps ?_ evaluation ending)
  split <;> exact present

theorem attachClient_steps (present : id < session.tasks.length)
    (evaluation : stage.isEvaluation) (input : Value) :
    Steps (some id) (session.moveTo id stage) (session.attachClient id pid input) := by
  cases attachClient_attaches session id pid input with
  | waits runs => exact runs ▸ evaluate_steps present evaluation (.inl rfl)
  | @gives octets read runs =>
      have quiet : Quiet session (session.note (.gaveInput pid octets)) := Quiet.note session rfl
      rw [runs]
      exact ((quiet.moveTo id stage).steps _).trans (evaluate_steps present evaluation (.inl rfl))
  | abandons unreadable runs => exact runs ▸ abandonClient_steps present evaluation _

theorem runEvaluate_steps {form input : Value}
    (found : session.stage? id = some (.evaluate form input)) :
    Steps (some id) session (session.runEvaluate id form input) := by
  have present := lt_of_stage? found
  have ends (ending : Ending) : Steps (some id) session (session.finish id ending) :=
    Steps.ofStage found (evaluate_steps present rfl (.inr rfl))
  cases runEvaluate_asks session id form input with
  | notStarted idle runs => exact runs ▸ ends _
  | unprintable running unprintable runs => exact runs ▸ ends _
  | refused running printed spawns runs =>
      have quiet := spawns.quiet
      have still := (congrFun (stage?_of_tasks quiet.tasks) id).trans found
      rw [runs]
      apply (quiet.steps _).trans
      exact Steps.ofStage still (evaluate_steps (quiet.tasks ▸ present) rfl (.inr rfl))
  | hired running printed spawns runs =>
      obtain ⟨process, rfl, recruit, grown⟩ := spawns.grown
      have client : process.isDaemon = false := by rw [Process.isDaemon, recruit.role]
      rw [runs]
      refine .head (.spawnClient found running process recruit.next client recruit.silent) ?_
      refine ((grown.moveTo id _).steps _).trans (attachClient_steps ?_ rfl input)
      exact grown.tasks ▸ present

theorem answer_steps (present : id < session.tasks.length) (evaluation : stage.isEvaluation)
    (client : Process) :
    Steps (some id) (session.moveTo id stage) (session.answer id client) := by
  have told (message : String) : Steps (some id) (session.moveTo id stage)
      ((if client.errors.unread.all Text.isBlankOctet then session
        else session.log .warning message).moveTo id stage) := by
    split
    next => exact .refl
    next => exact ((Quiet.note session rfl).moveTo id stage).steps _
  refine (told _).trans (evaluate_steps ?_ evaluation (.inr rfl))
  split <;> exact present

theorem takeAnswer_steps (found : session.stage? id = some (.awaitAnswer pid)) :
    Steps (some id) session (session.takeAnswer id pid) := by
  have present := lt_of_stage? found
  rw [takeAnswer]
  split
  next => exact .refl
  next client _ =>
    split
    next => exact Steps.ofStage found (abandonClient_steps present rfl _)
    next =>
      split
      next => exact Steps.ofStage found (answer_steps present rfl client)
      next => exact .refl

end Evaluation

end EmacsSession.Session
