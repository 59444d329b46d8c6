/-
This file shows what every small step of a session leaves as it is.
-/

import EmacsSession.Proofs.Session.Phase

namespace EmacsSession

namespace Stage

theorem ending?_of_isYielding {stage : Stage} (yielding : stage.isYielding) :
    stage.ending? = none := by
  cases stage <;> first | rfl | cases yielding

theorem ending?_of_isWaking {stage : Stage} {pid : Pid} (waking : stage.isWaking pid) :
    stage.ending? = none := by
  cases stage <;> first | rfl | cases waking

theorem ending?_of_isEvaluation {stage : Stage} (evaluation : stage.isEvaluation) :
    stage.ending? = none := by
  cases stage <;> first | rfl | cases evaluation

theorem isCaller_of_isEvaluation {stage : Stage} (evaluation : stage.isEvaluation) :
    stage.isCaller := by
  cases stage <;> first | rfl | cases evaluation

theorem eq_ended {stage : Stage} (ended : stage.ending?.isSome) :
    ∃ ending, stage = .ended ending := by
  cases stage <;> first | exact ⟨_, rfl⟩ | cases ended

/-- The ways from one stage of a task to the next. -/
inductive Proceeds : Stage → Stage → Prop
  | finish {stage : Stage} (ending : Ending) (going : stage.ending? = none) :
      Proceeds stage (.ended ending)
  | join {attempt : TaskId} {enters : Bool} :
      Proceeds (.start enters) (.awaitAttempt attempt enters)
  | spawn {pid : Pid} : Proceeds .attempt (.awaitSpawn pid)
  | attach {pid : Pid} : Proceeds (.awaitSpawn pid) (.awaitReady pid {})
  | read {pid : Pid} {readiness later : Readiness} :
      Proceeds (.awaitReady pid readiness) (.awaitReady pid later)
  | close {pid : Pid} {readiness : Readiness} :
      Proceeds (.awaitReady pid readiness) (.awaitCode pid)
  | abort {stage : Stage} {pid : Pid} {fault : Fault} (waking : stage.isWaking pid) :
      Proceeds stage (.awaitEnd pid fault)
  | relay {pid : Pid} {diagnostics later : Diagnostics} :
      Proceeds (.relay pid diagnostics) (.relay pid later)
  | dismiss {pid : Pid} : Proceeds .stop (.awaitTermination pid)
  | release {pid : Pid} {tasks : List TaskId} :
      Proceeds (.awaitTermination pid) (.awaitBackground tasks)
  | evaluate {stage later : Stage} (evaluation : stage.isEvaluation) (still : later.isEvaluation) :
      Proceeds stage later

end Stage

namespace Session

section Frame

variable {session after : Session} {mover : Option TaskId} {id : TaskId} {stage : Stage}

theorem length_of_step (step : Step mover session after) :
    session.tasks.length ≤ after.tasks.length := by
  cases step with
  | quiet quiet => exact quiet.tasks ▸ Nat.le_refl _
  | leave found ended passes => simp
  | abandon found flagged => simp
  | ready found setting shown diagnostics =>
      rw [becomeReady_tasks _ _ _ _ (lt_of_stage? found)]
      simp
  | dismiss found running current message => simp
  | release found exited => exact Nat.le_of_eq (by rw [moveTo_length, length_releaseBackground])
  | _ => simp [requestCancel, enlist, takeChunks]

/-- A task stays in its stage while it does not go on. -/
theorem stage?_of_step (step : Step mover session after) (other : mover ≠ some id)
    (present : id < session.tasks.length) : after.stage? id = session.stage? id := by
  have different {first : TaskId} (same : mover = some first) : id ≠ first :=
    fun equal => other (equal ▸ same)
  cases step with
  | quiet quiet => rw [stage?_of_tasks quiet.tasks]
  | develop pid change continues => rfl
  | call later call => exact stage?_begin_of_lt present
  | cancel found caller => rw [stage?_requestCancel]
  | ask found notRunning free =>
      rw [stage?_moveTo_of_ne (different rfl)]
      exact stage?_begin_of_lt present
  | leave found ended passes =>
      exact (stage?_moveTo_of_ne (different rfl)).trans (congrFun (stage?_forget _) id)
  | abandon found flagged =>
      exact (stage?_moveTo_of_ne (different rfl)).trans (congrFun (stage?_forget _) id)
  | enter found => rfl
  | ready found setting shown diagnostics =>
      rw [stage?_of_tasks (becomeReady_tasks _ _ _ _ (lt_of_stage? found)),
        stage?_begin_of_lt (by simpa using Nat.lt_succ_of_lt present),
        stage?_begin_of_lt (by simpa using present), stage?_moveTo_of_ne (different rfl)]
  | dismiss found running current message =>
      rw [stage?_moveTo_of_ne (different rfl), stage?_dismiss]
  | release found exited => rw [stage?_moveTo_of_ne (different rfl), releaseBackground_stage?]
  | evaluate found evaluation goes alter moves =>
      rw [stage?_alterTask moves, stage?_moveTo_of_ne (different rfl)]
  | _ => exact stage?_moveTo_of_ne (different rfl)

/-- The stage of the task that goes on is no last one, unless nothing happens to tasks. -/
theorem stage?_of_mover (step : Step (some id) session after) :
    after.tasks = session.tasks ∨
      ∃ stage, session.stage? id = some stage ∧ stage.ending? = none := by
  cases step with
  | quiet quiet => exact .inl quiet.tasks
  | develop pid change continues => exact .inl rfl
  | @yield _ _ stage found yielding flagged =>
      exact .inr ⟨stage, found, Stage.ending?_of_isYielding yielding⟩
  | @abort _ _ stage pid found waking fault =>
      exact .inr ⟨stage, found, Stage.ending?_of_isWaking waking⟩
  | @evaluate _ _ stage later found evaluation goes alter moves =>
      exact .inr ⟨stage, found, Stage.ending?_of_isEvaluation evaluation⟩
  | _ => exact .inr ⟨_, ‹session.stage? id = some _›, rfl⟩

/-- A task that has ended stays so. -/
theorem ended_of_step (step : Step mover session after) {ending : Ending}
    (ended : session.stage? id = some (.ended ending)) :
    after.stage? id = some (.ended ending) := by
  by_cases moves : mover = some id
  · subst moves
    rcases stage?_of_mover step with same | ⟨stage, found, going⟩
    · rwa [stage?_of_tasks same]
    · cases ended.symm.trans found
      cases going
  · rw [stage?_of_step step moves (lt_of_stage? ended), ended]

theorem suffix_dismiss (pid : Pid) (message : String) :
    session.deeds <:+ (session.dismiss pid message).deeds := by
  have noted : session.deeds <:+ .logged .info message :: .became .stopped :: session.deeds :=
    (List.suffix_cons _ _).trans (List.suffix_cons _ _)
  rw [dismiss]
  split
  next => exact noted
  next => exact noted.trans (List.suffix_cons _ _)

theorem deeds_of_step (step : Step mover session after) : session.deeds <:+ after.deeds := by
  cases step with
  | quiet quiet =>
      obtain ⟨_, _, _, _, _, rfl, more, -⟩ := quiet
      exact more
  | @dismiss _ _ pid found running current message => exact suffix_dismiss pid message
  | release found exited => simp
  | leave found ended passes => simp
  | abandon found flagged => simp
  | ready found setting shown diagnostics =>
      exact (List.suffix_cons _ _).trans (List.suffix_cons _ _)
  | _ => first | exact List.suffix_refl _ | exact List.suffix_cons _ _

theorem process?_of_step {phase : Phase} (stands : session.Stands phase)
    (step : Step mover session after) {pid : Pid} {process : Process}
    (found : session.world.process? pid = some process) :
    ∃ later, after.world.process? pid = some later ∧ process.Lasts later := by
  have same (world : after.world.process? pid = session.world.process? pid) :
      ∃ later, after.world.process? pid = some later ∧ process.Lasts later :=
    ⟨process, world.trans found, .refl process⟩
  cases step with
  | quiet quiet =>
      obtain ⟨_, _, _, _, _, rfl, -, -⟩ := quiet
      exact same rfl
  | develop other change continues =>
      exact World.process?_alter_lasts (fun process => (continues process).toLasts) found
  | spawn here starting process next daemon alive silent =>
      exact same ((World.process?_enlist_of_known stands.numbered next found).trans found.symm)
  | read here taken left follows =>
      exact World.process?_alter_lasts (Process.read_lasts taken left) found
  | relay here taken left later =>
      exact World.process?_alter_lasts (Process.read_lasts taken left) found
  | dismiss here running current message =>
      rw [moveTo_world, dismiss_world]
      split
      next => exact ⟨process, found, .refl process⟩
      next =>
        exact World.process?_alter_lasts
          (fun process => (Process.terminate_continues process).toLasts) found
  | release here exited => exact same (by rw [moveTo_world, releaseBackground_world])
  | spawnClient here running process next client silent =>
      exact same ((World.process?_enlist_of_known stands.numbered next found).trans found.symm)
  | leave here ended passes => exact same (by simp)
  | abandon here flagged => exact same (by simp)
  | _ => exact same rfl

/-- A stage in which a task stands after a small step: it stood there before, or has gone on to it,
or begins in it. -/
inductive Arrival (mover : Option TaskId) (session after : Session) (id : TaskId) :
    Stage → Prop
  | stay {stage : Stage} (before : session.stage? id = some stage) :
      Arrival mover session after id stage
  | proceed {earlier stage : Stage} (moves : mover = some id)
      (before : session.stage? id = some earlier) (proceeds : earlier.Proceeds stage) :
      Arrival mover session after id stage
  | call {stage : Stage} (new : session.tasks.length ≤ id) (nobody : mover = none)
      (call : stage.isCall) : Arrival mover session after id stage
  | attempt (new : session.tasks.length ≤ id) : Arrival mover session after id .attempt
  | attend {stage : Stage} {attempt : TaskId} {pid : Pid} {readiness : Readiness}
      {diagnostics : Diagnostics} (new : session.tasks.length ≤ id)
      (given : id ∈ after.handle.background)
      (found : session.stage? attempt = some (.awaitReady pid readiness))
      (same : after = session.becomeReady attempt pid diagnostics)
      (looks : stage.charge? = some pid) : Arrival mover session after id stage

theorem Arrival.old (arrival : Arrival mover session after id stage)
    (present : id < session.tasks.length) : session.stage? id = some stage ∨
      mover = some id ∧ ∃ earlier, session.stage? id = some earlier ∧ earlier.Proceeds stage := by
  cases arrival with
  | stay before => exact .inl before
  | proceed moves before proceeds => exact .inr ⟨moves, _, before, proceeds⟩
  | call new nobody call => exact absurd present (Nat.not_lt.mpr new)
  | attempt new => exact absurd present (Nat.not_lt.mpr new)
  | attend new given found same looks => exact absurd present (Nat.not_lt.mpr new)

theorem isOver_of_step {phase : Phase} (stands : session.Stands phase)
    (step : Step mover session after) {pid : Pid} (finished : session.world.IsOver pid) :
    after.world.IsOver pid := by
  obtain ⟨process, found, ends⟩ := finished.knows
  obtain ⟨later, there, lasts⟩ := process?_of_step stands step found
  rw [World.IsOver, World.errors, there]
  exact ends.imp lasts.closed lasts.broken

theorem hasExited_of_step {phase : Phase} (stands : session.Stands phase)
    (step : Step mover session after) {pid : Pid} (exited : session.hasExited pid) :
    after.hasExited pid := by
  rw [hasExited, World.hasExited, World.exitCode?] at exited ⊢
  obtain ⟨code, ended⟩ := Option.isSome_iff_exists.mp exited
  obtain ⟨process, found, same⟩ := Option.bind_eq_some_iff.mp ended
  obtain ⟨later, there, lasts⟩ := process?_of_step stands step found
  rw [there, Option.bind_some, lasts.ended code same]
  rfl

theorem hasExited_of_move {phase : Phase} (stands : session.Stands phase) {pid : Pid}
    (exited : session.hasExited pid) (move : Move) : (session.move move).hasExited pid :=
  (Steps.keep (fun later => later.hasExited pid) stands exited
    (fun standing held step => hasExited_of_step standing step held)
    (move_steps stands.live move)).1

/-- What was done stays done. -/
theorem deeds_of_move {phase : Phase} (stands : session.Stands phase) (move : Move) :
    session.deeds <:+ (session.move move).deeds :=
  (Steps.keep (fun later => session.deeds <:+ later.deeds) stands (List.suffix_refl _)
    (fun _ held step => held.trans (deeds_of_step step)) (move_steps stands.live move)).1

theorem Arrival.ofMove {changed : Session} {first : TaskId} {earlier later : Stage}
    (moves : mover = some first) (found : session.stage? first = some earlier)
    (proceeds : earlier.Proceeds later) (stages : changed.stage? = session.stage?)
    (here : (changed.moveTo first later).stage? id = some stage) :
    Arrival mover session after id stage := by
  rcases stage?_moveTo here with ⟨rfl, rfl⟩ | before
  · exact .proceed moves found proceeds
  · exact .stay (stages ▸ before)

theorem arrival_of_step (step : Step mover session after) (here : after.stage? id = some stage) :
    Arrival mover session after id stage := by
  cases step with
  | quiet quiet => exact .stay (stage?_of_tasks quiet.tasks ▸ here)
  | develop pid change continues => exact .stay here
  | call later call =>
      rcases stage?_begin here with before | ⟨new, rfl⟩
      · exact .stay before
      · exact .call (Nat.le_of_eq new.symm) rfl call
  | cancel found caller => exact .stay (stage?_requestCancel ▸ here)
  | @yield _ _ earlier found yielding flagged =>
      exact .ofMove rfl found (.finish _ (Stage.ending?_of_isYielding yielding)) rfl here
  | greet found running text => exact .ofMove rfl found (.finish _ rfl) rfl here
  | ask found notRunning free =>
      rcases stage?_moveTo here with ⟨rfl, rfl⟩ | began
      · exact .proceed rfl found .join
      · rcases stage?_begin began with before | ⟨new, rfl⟩
        · exact .stay before
        · exact .attempt (Nat.le_of_eq new.symm)
  | join found notRunning memo => exact .ofMove rfl found .join rfl here
  | leave found ended passes =>
      exact .ofMove rfl found (.finish _ rfl) (stage?_forget _) here
  | abandon found flagged => exact .ofMove rfl found (.finish _ rfl) (stage?_forget _) here
  | enter found => exact .stay here
  | refuse found starting fault => exact .ofMove rfl found (.finish _ rfl) rfl here
  | collapse found starting fault => exact .ofMove rfl found (.finish _ rfl) rfl here
  | spawn found starting process next daemon alive silent =>
      exact .ofMove rfl found .spawn rfl here
  | attach found => exact .ofMove rfl found .attach rfl here
  | read found taken left follows => exact .ofMove rfl found .read rfl here
  | close found => exact .ofMove rfl found .close rfl here
  | @ready _ attempt pid readiness marker found setting shown diagnostics =>
      rw [stage?_of_tasks (becomeReady_tasks _ _ _ _ (lt_of_stage? found))] at here
      rcases stage?_begin here with here | ⟨new, rfl⟩
      · rcases stage?_begin here with here | ⟨new, rfl⟩
        · exact .ofMove rfl found (.finish _ rfl) rfl here
        · rw [moveTo_length] at new
          exact .attend (Nat.le_of_eq new.symm) (by simp [new]) found rfl rfl
      · rw [begin_tasks, List.length_append, moveTo_length, List.length_singleton] at new
        exact .attend (new ▸ Nat.le_succ _) (by simp [new]) found rfl rfl
  | abort found waking fault => exact .ofMove rfl found (.abort waking) rfl here
  | fail found exited => exact .ofMove rfl found (.finish _ rfl) rfl here
  | relay found taken left later => exact .ofMove rfl found .relay rfl here
  | relayed found finished own => exact .ofMove rfl found (.finish _ rfl) rfl here
  | notice found exited current => exact .ofMove rfl found (.finish _ rfl) rfl here
  | overlook found exited other => exact .ofMove rfl found (.finish _ rfl) rfl here
  | decline found notRunning => exact .ofMove rfl found (.finish _ rfl) rfl here
  | dismiss found running current message =>
      exact .ofMove rfl found .dismiss (stage?_dismiss _ _) here
  | release found exited => exact .ofMove rfl found .release releaseBackground_stage? here
  | rest found finished own => exact .ofMove rfl found (.finish _ rfl) rfl here
  | @evaluate _ first earlier later found evaluation goes alter moves =>
      rw [stage?_alterTask moves] at here
      refine .ofMove rfl found ?_ rfl here
      rcases goes with still | ended
      · exact .evaluate evaluation still
      · obtain ⟨ending, rfl⟩ := Stage.eq_ended ended
        exact .finish ending (Stage.ending?_of_isEvaluation evaluation)
  | spawnClient found running process next client silent =>
      exact .ofMove rfl found (.evaluate rfl rfl) rfl here

/-- A caller waits for the end of background tasks until all of them have ended. -/
theorem awaitBackground_of_step {tasks : List TaskId} (step : Step mover session after)
    (waiting : session.stage? id = some (.awaitBackground tasks)) :
    after.stage? id = some (.awaitBackground tasks) ∨
      tasks.all session.hasEnded ∧ ∃ outcome, after.stage? id = some (.ended outcome) := by
  by_cases moves : mover = some id
  · subst moves
    cases step with
    | quiet quiet => exact .inl (stage?_of_tasks quiet.tasks ▸ waiting)
    | develop pid change continues => exact .inl waiting
    | yield found yielding flagged =>
        cases found.symm.trans waiting
        cases yielding
    | abort found waking fault =>
        cases found.symm.trans waiting
        cases waking
    | rest found finished own =>
        cases found.symm.trans waiting
        exact .inr ⟨finished, _, stage?_moveTo_self (lt_of_stage? waiting)⟩
    | evaluate found evaluation goes alter moves =>
        cases found.symm.trans waiting
        cases evaluation
    | _ => cases (‹session.stage? id = some _› : _ = _).symm.trans waiting
  · exact .inl ((stage?_of_step step moves (lt_of_stage? waiting)).trans waiting)

/-- A caller waits for the end of a process until that has ended, and gives the background tasks up
then, or it is cancelled where that was requested. -/
theorem awaitTermination_of_step {pid : Pid} (step : Step mover session after)
    (waiting : session.stage? id = some (.awaitTermination pid)) :
    after.stage? id = some (.awaitTermination pid) ∨
      (session.isFlagged id ∧ after.stage? id = some (.ended .cancelled)) ∨
        session.hasExited pid ∧ after =
          session.releaseBackground.moveTo id (.awaitBackground session.handle.background) := by
  by_cases moves : mover = some id
  · subst moves
    cases step with
    | quiet quiet => exact .inl (stage?_of_tasks quiet.tasks ▸ waiting)
    | develop other change continues => exact .inl waiting
    | yield found yielding flagged =>
        exact .inr (.inl ⟨flagged, stage?_moveTo_self (lt_of_stage? waiting)⟩)
    | abort found waking fault =>
        cases found.symm.trans waiting
        cases waking
    | release found exited =>
        cases found.symm.trans waiting
        exact .inr (.inr ⟨exited, rfl⟩)
    | evaluate found evaluation goes alter moves =>
        cases found.symm.trans waiting
        cases evaluation
    | _ => cases (‹session.stage? id = some _› : _ = _).symm.trans waiting
  · exact .inl ((stage?_of_step step moves (lt_of_stage? waiting)).trans waiting)

/-- A caller that asks for the daemon to stop waits for the end of the process as which it ran, and
it has stopped then. -/
theorem stop_of_step {pid : Pid} (step : Step mover session after)
    (waiting : after.stage? id = some (.awaitTermination pid)) :
    session.stage? id = some (.awaitTermination pid) ∨
      session.RunsAs pid ∧ after.handle.status = .stopped := by
  cases arrival_of_step step waiting with
  | stay before => exact .inl before
  | proceed moves stopping proceeds =>
      subst moves
      cases proceeds with
      | dismiss =>
          have present := lt_of_stage? stopping
          cases step with
          | quiet quiet => exact .inl (stage?_of_tasks quiet.tasks ▸ waiting)
          | develop pid change continues => exact .inl waiting
          | yield found yielding flagged =>
              rw [finish_eq_moveTo, stage?_moveTo_self present] at waiting
              cases waiting
          | abort found waking fault =>
              cases found.symm.trans stopping
              cases waking
          | decline found notRunning =>
              rw [finish_eq_moveTo, stage?_moveTo_self present] at waiting
              cases waiting
          | dismiss found running current message =>
              rw [stage?_moveTo_self (by rwa [dismiss_tasks])] at waiting
              cases waiting
              refine .inr ⟨⟨running, current⟩, ?_⟩
              rw [moveTo_handle, dismiss_handle]
          | evaluate found evaluation goes alter moves =>
              cases found.symm.trans stopping
              cases evaluation
          | _ => cases (‹session.stage? id = some _› : _ = _).symm.trans stopping
      | evaluate evaluation still => cases still
  | call new nobody call => cases call
  | attend new given found same looks => cases looks

/-- The exit of the daemon's process is watched for until the daemon has another one or none. -/
theorem watch_of_step {pid : Pid} (step : Step mover session after)
    (watching : session.stage? id = some (.watch pid)) (steady : session.isFlagged id = false)
    (before : session.handle.process = some pid) (now : after.handle.process = some pid) :
    after.stage? id = some (.watch pid) := by
  by_cases moves : mover = some id
  · subst moves
    cases step with
    | quiet quiet => exact stage?_of_tasks quiet.tasks ▸ watching
    | develop pid change continues => exact watching
    | yield found yielding flagged =>
        rw [steady] at flagged
        cases flagged
    | abort found waking fault =>
        cases found.symm.trans watching
        cases waking
    | notice => cases now
    | overlook found exited other =>
        cases found.symm.trans watching
        exact absurd before other
    | evaluate found evaluation goes alter moves =>
        cases found.symm.trans watching
        cases evaluation
    | _ => cases (‹session.stage? id = some _› : _ = _).symm.trans watching
  · exact (stage?_of_step step moves (lt_of_stage? watching)).trans watching

/-- Diagnostics are forwarded up to their end. -/
theorem relay_of_step {pid : Pid} {diagnostics : Diagnostics} (step : Step mover session after)
    (relaying : session.stage? id = some (.relay pid diagnostics))
    (lasting : session.isFlagged id = false) :
    (∃ later, after.stage? id = some (.relay pid later)) ∨
      (∃ ending, after.stage? id = some (.ended ending) ∧ ending ≠ .cancelled) ∧
        session.world.IsOver pid := by
  by_cases moves : mover = some id
  · subst moves
    have present := lt_of_stage? relaying
    cases step with
    | quiet quiet => exact .inl ⟨_, stage?_of_tasks quiet.tasks ▸ relaying⟩
    | develop pid change continues => exact .inl ⟨_, relaying⟩
    | yield found yielding flagged =>
        rw [lasting] at flagged
        cases flagged
    | abort found waking fault =>
        cases found.symm.trans relaying
        cases waking
    | relay found taken left later =>
        cases found.symm.trans relaying
        exact .inl ⟨later, stage?_moveTo_self present⟩
    | @relayed _ _ _ _ found finished outcome own =>
        cases found.symm.trans relaying
        exact .inr ⟨⟨outcome, stage?_moveTo_self present, own⟩, finished⟩
    | evaluate found evaluation goes alter moves =>
        cases found.symm.trans relaying
        cases evaluation
    | _ => cases (‹session.stage? id = some _› : _ = _).symm.trans relaying
  · exact .inl ⟨_, (stage?_of_step step moves (lt_of_stage? relaying)).trans relaying⟩

/-- What a small step does to the background tasks: it leaves them, or it is the one by which they
begin, or the one by which the handle gives them up. -/
inductive Tending (mover : Option TaskId) (session after : Session) : Prop
  | keep (background : after.handle.background = session.handle.background)
      (running : after.handle.status = .running → session.handle.status = .running)
      (flags : ∀ id stage, session.stage? id = some stage → stage.isCaller = false →
        after.isFlagged id = session.isFlagged id)
  | take {id : TaskId} {pid : Pid} {readiness : Readiness} {diagnostics : Diagnostics}
      (moves : mover = some id) (found : session.stage? id = some (.awaitReady pid readiness))
      (same : after = session.becomeReady id pid diagnostics)
  | release {id : TaskId} {pid : Pid} (moves : mover = some id)
      (found : session.stage? id = some (.awaitTermination pid)) (exited : session.hasExited pid)
      (same : after =
        session.releaseBackground.moveTo id (.awaitBackground session.handle.background))

/-- No task is cancelled by the daemon's becoming ready. -/
theorem isFlagged_becomeReady {attempt : TaskId} {pid : Pid} {diagnostics : Diagnostics}
    (present : attempt < session.tasks.length)
    (flagged : (session.becomeReady attempt pid diagnostics).isFlagged id) :
    session.isFlagged id := by
  rw [isFlagged_of_tasks (becomeReady_tasks _ _ _ _ present)] at flagged
  rw [← @isFlagged_moveTo session attempt (.ended (.returned none))]
  exact isFlagged_begin (isFlagged_begin flagged)

theorem lt_of_isFlagged (flagged : session.isFlagged id) : id < session.tasks.length := by
  rw [isFlagged] at flagged
  cases present : session.tasks[id]? with
  | none => simp [present] at flagged
  | some task => exact (List.getElem?_eq_some_iff.mp present).1

/-- A step that only moves a task leaves the background tasks. -/
theorem Tending.ofMove {changed : Session} (id : TaskId) (stage : Stage)
    (tasks : changed.tasks = session.tasks)
    (background : changed.handle.background = session.handle.background)
    (running : changed.handle.status = .running → session.handle.status = .running) :
    Tending mover session (changed.moveTo id stage) :=
  .keep background running fun other _ _ _ => by rw [isFlagged_moveTo, isFlagged_of_tasks tasks]

theorem tending_of_step (step : Step mover session after) : Tending mover session after := by
  cases step with
  | quiet quiet =>
      obtain ⟨_, _, _, _, _, rfl, -, -⟩ := quiet
      exact .keep rfl (fun running => running) fun _ _ _ _ => rfl
  | develop pid change continues => exact .keep rfl (fun running => running) fun _ _ _ _ => rfl
  | call later call =>
      exact .keep rfl (fun running => running) fun other _ found _ =>
        isFlagged_begin_of_lt (lt_of_stage? found)
  | @cancel _ first stage here caller =>
      refine .keep rfl (fun running => running) fun other standing found own => ?_
      have different : other ≠ first := by
        rintro rfl
        cases here.symm.trans found
        rw [own] at caller
        cases caller
      simp [isFlagged_requestCancel, different]
  | ask here notRunning free =>
      refine .keep rfl (fun running => running) fun other _ found _ => ?_
      rw [isFlagged_moveTo]
      exact isFlagged_begin_of_lt (lt_of_stage? found)
  | leave here ended passes =>
      exact .ofMove _ _ (forget_tasks _) (by simp) (by simp)
  | abandon here flagged =>
      exact .ofMove _ _ (forget_tasks _) (by simp) (by simp)
  | enter here => exact .keep rfl nofun fun _ _ _ _ => rfl
  | refuse here starting fault => exact .ofMove _ _ rfl rfl nofun
  | abort here waking fault => exact .ofMove _ _ rfl rfl nofun
  | notice here exited current => exact .ofMove _ _ rfl rfl nofun
  | ready found setting shown diagnostics => exact .take rfl found rfl
  | dismiss here running current message =>
      exact .ofMove _ _ dismiss_tasks (by rw [dismiss_handle]) (by simp)
  | release found exited => exact .release rfl found exited rfl
  | @evaluate _ first stage later here evaluation goes alter moves =>
      refine .keep rfl (fun running => running) fun other standing found own => ?_
      have different : first ≠ other := by
        rintro rfl
        cases here.symm.trans found
        rw [Stage.isCaller_of_isEvaluation evaluation] at own
        cases own
      simp [isFlagged, different]
  | _ => exact .ofMove _ _ rfl rfl fun running => running

end Frame

end Session

end EmacsSession
