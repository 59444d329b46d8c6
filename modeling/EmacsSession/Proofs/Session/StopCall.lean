/-
This file shows what a call that asks for the daemon to stop leaves behind.
-/

import EmacsSession.Proofs.Session.Accounting
import EmacsSession.Proofs.Session.Background
import EmacsSession.Proofs.Session.StartCall

namespace EmacsSession.Session

/-- A caller that asks for the daemon to stop is heard by this move: it goes on for the first time,
and its cancellation was not requested before. -/
structure HearsStop (session : Session) (id : TaskId) (move : Move) : Prop where
  asks : session.stage? id = some .stop
  wanted : session.isFlagged id = false
  moves : session.mover move = some id

/-- No caller that asks for the daemon to run is heard during these moves. -/
def HearsNoStart (session : Session) (moves : List Move) : Prop :=
  ∀ before move after id, moves = before ++ move :: after →
    ¬ (session.follow before).HearsStart id move

/-- The daemon has stopped, and a caller that asked for that waits for the end of its process or
returns after it. All background tasks of the process are the handle's or to be cancelled. -/
structure Halting (session : Session) (id : TaskId) (pid : Pid) : Prop where
  resting : session.Stands .resting
  stopped : session.handle.status = .stopped
  caller : session.stage? id = some (.awaitTermination pid) ∨
    session.stage? id = some (.ended .cancelled) ∨
      session.hasExited pid ∧ session.handle.background = [] ∧
        ((∃ tasks, session.stage? id = some (.awaitBackground tasks)) ∨
          ∃ ending, session.stage? id = some (.ended ending))
  minded : ∀ other stage, session.stage? other = some stage → stage.charge? = some pid →
    other ∈ session.handle.background ∨ session.isFlagged other

/-- No other caller waits for the end of a process. -/
def IsAlone (session : Session) (id : TaskId) : Prop :=
  ∀ other pid, session.stage? other = some (.awaitTermination pid) → other = id

/-- No other caller waits for the end of a process, and this one waits for the end of all background
tasks of its own. -/
structure HaltsAlone (session : Session) (id : TaskId) (pid : Pid) : Prop where
  alone : session.IsAlone id
  attended : ∀ other stage, session.stage? other = some stage → stage.charge? = some pid →
    (session.stage? id = some (.awaitTermination pid) ∧ other ∈ session.handle.background) ∨
      (∃ tasks, session.stage? id = some (.awaitBackground tasks) ∧ other ∈ tasks) ∨
        session.stage? id = some (.ended .cancelled)

/-- A process that was to stop has ended, and each of its background tasks that has not is to be
cancelled, and a caller waits for that. None is left if no other caller could give them up. -/
structure Leaves (session after : Session) (id : TaskId) (pid : Pid) : Prop where
  exited : after.hasExited pid
  cancelled : ∀ task stage, after.stage? task = some stage → stage.charge? = some pid →
    after.isFlagged task ∧
      ∃ caller tasks, after.stage? caller = some (.awaitBackground tasks) ∧ task ∈ tasks
  none : session.IsAlone id →
    (∀ task stage, session.stage? task = some stage → stage.charge? = some pid →
      session.isFlagged task = false) →
    ∀ task stage, after.stage? task = some stage → stage.charge? ≠ some pid

/-- A caller that was heard by this move, and asked for the daemon to stop, has returned after the
rest of the run, in which no caller was heard that asks for it to run. -/
structure Returns (session : Session) (id : TaskId) (move : Move) (rest : List Move) : Prop where
  reachable : session.IsReachable
  hears : session.HearsStop id move
  deaf : (session.move move).HearsNoStart rest
  returns : ((session.move move).follow rest).ending? id = some (.returned none)

section Halting

variable {session after : Session} {phase : Phase} {mover : Option TaskId} {id : TaskId}
  {pid : Pid}

theorem Stands.not_awaitReady (stands : session.Stands .resting) (attempt : TaskId) (other : Pid)
    (readiness : Readiness) : session.stage? attempt ≠ some (.awaitReady other readiness) :=
  fun found => nomatch stands.eq_of_stage? found rfl

/-- A daemon that rests does not change its state. -/
theorem status_of_resting (stands : session.Stands .resting) (step : Step mover session after) :
    after.handle.status = session.handle.status := by
  cases step with
  | quiet quiet => exact quiet.status
  | leave found ended passes => simp
  | abandon found flagged => simp
  | enter found => cases stands.eq_of_stage? found rfl
  | refuse found starting fault => cases stands.eq_of_stage? found rfl
  | ready found setting shown diagnostics => cases stands.eq_of_stage? found rfl
  | abort found waking fault => cases stands.eq_of_stage? found (Stage.phase?_of_isWaking waking _)
  | notice found exited current => cases stands.process.symm.trans current
  | dismiss found running current message => cases stands.process.symm.trans current
  | release found exited => simp
  | _ => rfl

/-- A daemon that rests goes on to do so unless a caller asks for it to run. -/
theorem resting_of_step (stands : session.Stands .resting) (step : Step mover session after)
    (deaf : ∀ id enters, mover = some id → session.stage? id ≠ some (.start enters)) :
    after.Stands .resting := by
  obtain ⟨next, leads, passage⟩ := stands.step step
  cases passage with
  | stay => exact leads
  | ask moves asks => exact absurd asks (deaf _ _ moves)

theorem Halting.step (halting : session.Halting id pid) (step : Step mover session after)
    (resting : after.Stands .resting) : after.Halting id pid where
  resting := resting
  stopped := (status_of_resting halting.resting step).trans halting.stopped
  caller := by
    rcases halting.caller with waiting | cancelled | ⟨exited, empty, stage⟩
    · rcases awaitTermination_of_step step waiting with
        still | ⟨-, cancelled⟩ | ⟨exited, equal⟩
      · exact .inl still
      · exact .inr (.inl cancelled)
      · refine .inr (.inr ⟨hasExited_of_step halting.resting step exited, ?_,
          .inl ⟨session.handle.background, ?_⟩⟩)
        · rw [equal, moveTo_handle, releaseBackground_handle]
        · rw [equal, stage?_release waiting]
    · exact .inr (.inl (ended_of_step step cancelled))
    · refine .inr (.inr ⟨hasExited_of_step halting.resting step exited, ?_, ?_⟩)
      · cases tending_of_step step with
        | keep background running flags => exact background.trans empty
        | take moves ready equal => exact absurd ready (halting.resting.not_awaitReady _ _ _)
        | release moves waiting finished equal =>
            rw [equal, moveTo_handle, releaseBackground_handle]
      · rcases stage with ⟨tasks, waiting⟩ | ⟨ending, ended⟩
        · rcases awaitBackground_of_step step waiting with still | ⟨-, finished⟩
          · exact .inl ⟨tasks, still⟩
          · exact .inr finished
        · exact .inr ⟨ending, ended_of_step step ended⟩
  minded other stage here looks := by
    rcases charge_of_step step here looks with
      ⟨earlier, before, same⟩ | ⟨-, -, attempt, _, _, ready, -⟩
    · exact (tending_of_step step).minds before same (halting.minded other earlier before same)
        halting.resting.not_awaitReady
    · exact absurd ready (halting.resting.not_awaitReady _ _ _)

theorem HaltsAlone.step (alone : session.HaltsAlone id pid) (halting : session.Halting id pid)
    (step : Step mover session after) : after.HaltsAlone id pid where
  alone other charge waiting := by
    rcases stop_of_step step waiting with before | ⟨running, -⟩
    · exact alone.alone other charge before
    · cases running.1.symm.trans halting.stopped
  attended other stage here looks := by
    rcases charge_of_step step here looks with
      ⟨earlier, before, same⟩ | ⟨-, -, attempt, _, _, ready, -⟩
    · rcases alone.attended other earlier before same with
        ⟨waiting, member⟩ | ⟨tasks, waiting, member⟩ | cancelled
      · rcases awaitTermination_of_step step waiting with
          still | ⟨-, cancelled⟩ | ⟨exited, equal⟩
        · refine .inl ⟨still, ?_⟩
          cases tending_of_step step with
          | keep background running flags => rwa [background]
          | take moves ready equal => exact absurd ready (halting.resting.not_awaitReady _ _ _)
          | @release first charge moves found exited equal =>
              cases alone.alone first charge found
              rw [equal, stage?_release found] at still
              cases still
        · exact .inr (.inr cancelled)
        · refine .inr (.inl ⟨session.handle.background, ?_, member⟩)
          rw [equal, stage?_release waiting]
      · rcases awaitBackground_of_step step waiting with still | ⟨finished, -⟩
        · exact .inr (.inl ⟨tasks, still, member⟩)
        · have ended := List.all_eq_true.mp finished other member
          rw [hasEnded, ending?, before, Option.bind_some, Stage.ending?_of_charge? same] at ended
          cases ended
      · exact .inr (.inr (ended_of_step step cancelled))
    · exact absurd ready (halting.resting.not_awaitReady _ _ _)

end Halting

section Rest

variable {session after : Session} {phase : Phase} {mover : Option TaskId} {id : TaskId}
  {pid : Pid} {move : Move}

theorem hearsNoStart_nil (session : Session) : session.HearsNoStart [] := by
  rintro (- | ⟨first, others⟩) next after other ⟨⟩

theorem HearsNoStart.cons {moves : List Move} (silent : ∀ other, ¬ session.HearsStart other move)
    (deaf : (session.move move).HearsNoStart moves) : session.HearsNoStart (move :: moves) := by
  rintro (- | ⟨first, others⟩) next after other ⟨⟩
  · exact silent other
  · exact deaf others next after other rfl

/-- Only the task that goes on is heard. -/
theorem not_hearsStart {stage : Stage} (moves : session.mover move = some id)
    (found : session.stage? id = some stage) (silent : ∀ enters, stage ≠ .start enters)
    (other : TaskId) : ¬ session.HearsStart other move := by
  rintro ⟨⟨enters, asks⟩, -, moved⟩
  cases moves.symm.trans moved
  exact silent enters (stage?_inj found asks)

/-- What each small step keeps of a daemon that rests, a move keeps by which no caller is heard that
asks for the daemon to run. The daemon rests on. -/
theorem keep_of_move (holds : Session → Prop) (stands : session.Stands .resting)
    (begins : holds session)
    (keeps : ∀ {mover before after}, before.Stands .resting → after.Stands .resting → holds before →
      Step mover before after → holds after)
    (deaf : ∀ id, ¬ session.HearsStart id move) :
    holds (session.move move) ∧ (session.move move).Stands .resting := by
  -- A caller that was cancelled before it is heard has the stage that is excluded below, but ends.
  by_cases start : ∃ id enters, session.mover move = some id ∧
      session.stage? id = some (.start enters)
  · obtain ⟨id, enters, moves, asks⟩ := start
    have flagged : session.isFlagged id := by
      by_contra wanted
      exact deaf id ⟨⟨enters, asks⟩, by simpa using wanted, moves⟩
    obtain ⟨ready, same⟩ := yield_eq moves asks rfl flagged
    have quiet : Quiet (session.finish id .cancelled) (session.move move) := by
      rw [same]
      exact ⟨_, _, _, _, _, rfl, List.suffix_refl _, rfl⟩
    have rests : (session.finish id .cancelled).Stands .resting := stands.moveTo asks rfl (.inl rfl)
    have first := keeps stands rests begins (.yield asks rfl flagged)
    have wakes : Step none (session.finish id .cancelled) (session.move move) := .quiet quiet
    exact ⟨keeps rests (rests.quiet quiet) first wakes, rests.quiet quiet⟩
  · let within (after : Session) := holds after ∧ after.Stands .resting ∧
      ∀ id enters, session.mover move = some id → after.stage? id ≠ some (.start enters)
    have outset : within session :=
      ⟨begins, stands, fun id enters moves asks => start ⟨id, enters, moves, asks⟩⟩
    have kept : within (session.move move) := by
      refine (Steps.keep within stands outset (fun {before after _} _ here step => ?_)
        (move_steps stands.live move)).1
      obtain ⟨held, rests, silent⟩ := here
      have still := resting_of_step rests step silent
      refine ⟨keeps rests still held step, still, fun id enters moves asks => ?_⟩
      cases arrival_of_step step asks with
      | stay before => exact silent id enters moves before
      | proceed moved before proceeds =>
          cases proceeds with
          | evaluate evaluation still => cases still
      | call new nobody call => cases moves.symm.trans nobody
      | attend new given found same looks => cases looks
    exact ⟨kept.1, kept.2.1⟩

theorem keep_of_follow (holds : Session → Prop) (stands : session.Stands .resting)
    (begins : holds session)
    (keeps : ∀ {mover before after}, before.Stands .resting → after.Stands .resting → holds before →
      Step mover before after → holds after)
    (moves : List Move) (deaf : session.HearsNoStart moves) : holds (session.follow moves) := by
  induction moves generalizing session with
  | nil => exact begins
  | cons move moves inductionHypothesis =>
      obtain ⟨held, rests⟩ := keep_of_move holds stands begins keeps
        fun id => deaf [] move moves id rfl
      refine inductionHypothesis rests held fun before next after id split => ?_
      exact deaf (move :: before) next after id (by rw [split]; rfl)

/-- A daemon that is dismissed halts. -/
theorem halting_of_dismiss (stands : session.Stands (.running pid)) (minds : session.Minds)
    (asks : session.stage? id = some .stop) (message : String) :
    ((session.dismiss pid message).moveTo id (.awaitTermination pid)).Halting id pid := by
  have standing : (session.dismiss pid message).stage? id = some .stop := by
    rw [stage?_dismiss, asks]
  refine ⟨(stands.dismiss pid message).moveTo standing rfl (.inl rfl), ?_,
    .inl (stage?_moveTo_self (lt_of_stage? standing)), fun other stage here looks => ?_⟩
  · rw [moveTo_handle, dismiss_handle]
  · rcases stage?_moveTo here with ⟨rfl, rfl⟩ | before
    · cases looks
    · rw [stage?_dismiss] at before
      rw [moveTo_handle, dismiss_handle, isFlagged_moveTo, isFlagged_of_tasks dismiss_tasks]
      exact minds other stage pid before looks stands.process

theorem haltsAlone_of_dismiss (stands : session.Stands (.running pid)) (minds : session.Minds)
    (asks : session.stage? id = some .stop) (message : String) (alone : session.IsAlone id)
    (wanted : ∀ other stage, session.stage? other = some stage → stage.charge? = some pid →
      session.isFlagged other = false) :
    ((session.dismiss pid message).moveTo id (.awaitTermination pid)).HaltsAlone id pid := by
  have standing : (session.dismiss pid message).stage? id = some .stop := by
    rw [stage?_dismiss, asks]
  constructor
  · intro other charge waiting
    rcases stage?_moveTo waiting with ⟨rfl, -⟩ | before
    · rfl
    · rw [stage?_dismiss] at before
      exact alone other charge before
  · intro other stage here looks
    refine .inl ⟨stage?_moveTo_self (lt_of_stage? standing), ?_⟩
    rcases stage?_moveTo here with ⟨rfl, rfl⟩ | before
    · cases looks
    · rw [stage?_dismiss] at before
      rw [moveTo_handle, dismiss_handle]
      apply (minds other stage pid before looks stands.process).resolve_right
      intro flagged
      cases flagged.symm.trans (wanted other stage before looks)

/-- A daemon whose attempts have all ended rests unless it runs. -/
theorem Stands.resting_of_idle (stands : session.Stands phase)
    (notRunning : session.handle.status ≠ .running)
    (idle : ∀ attempt, ¬ session.isAttempting attempt) : session.Stands .resting := by
  cases unfinished : phase.attempt? with
  | some attempt => exact absurd (stands.isAttempting unfinished) (idle attempt)
  | none =>
      have permits := stands.status
      cases phase with
      | resting => exact stands
      | running pid => exact absurd permits notRunning
      | _ => cases unfinished

/-- While a daemon rests, no process of a daemon begins to live. -/
theorem live_of_resting (stands : session.Stands phase) (step : Step mover session after)
    (rests : after.Stands .resting) {other : Pid} (live : after.world.HasLiveDaemon other) :
    session.world.HasLiveDaemon other := by
  apply (live_of_step stands step live).resolve_right
  rintro ⟨attempt, spawning⟩
  cases rests.unique spawning

/-- A daemon that rests goes on to do so, with no other process, while no caller is heard that asks
for it to run. -/
theorem rest_of_follow (rests : session.Stands .resting) (moves : List Move)
    (deaf : session.HearsNoStart moves) :
    (session.follow moves).handle.status = session.handle.status ∧
      ∀ other, (session.follow moves).world.HasLiveDaemon other →
        session.world.HasLiveDaemon other := by
  refine keep_of_follow (fun after => after.handle.status = session.handle.status ∧
    ∀ other, after.world.HasLiveDaemon other → session.world.HasLiveDaemon other)
    rests ⟨rfl, fun _ live => live⟩ ?_ moves deaf
  intro mover before after earlier later here step
  constructor
  · exact (status_of_resting earlier step).trans here.1
  · intro other live
    exact here.2 other (live_of_resting earlier step later live)

/-- A caller that asks for the daemon to stop does nothing if the daemon does not run. -/
theorem move_of_notRunning (hears : session.HearsStop id move)
    (notRunning : session.handle.status ≠ .running) :
    ∃ ready, session.move move = { session.finish id (.returned none) with ready := ready } := by
  obtain ⟨ready, same⟩ := move_eq hears.moves
  let queue := { session with ready := session.ready.erase id }
  have standing : queue.stage? id = some .stop := hears.asks
  have unflagged : queue.isFlagged id = false := hears.wanted
  have idle : queue.handle.status ≠ .running := notRunning
  have declines : queue.resume id = queue.finish id (.returned none) := by
    rw [resume_of_stage standing, unflagged]
    simp [proceed, runStop, idle]
  exact ⟨ready, by rw [same, declines]; rfl⟩

/-- A caller that asks for a running daemon to stop dismisses it before it does anything else. -/
theorem move_of_running (hears : session.HearsStop id move) (runs : session.RunsAs pid) :
    ∃ queue message, Quiet session queue ∧
      Steps (some id) ((queue.dismiss pid message).moveTo id (.awaitTermination pid))
        (session.move move) := by
  obtain ⟨ready, same⟩ := move_eq hears.moves
  let queue := { session with ready := session.ready.erase id }
  have standing : queue.stage? id = some .stop := hears.asks
  have unflagged : queue.isFlagged id = false := hears.wanted
  have stops : queue.resume id = queue.runStop id := by
    rw [resume_of_stage standing, unflagged]
    rfl
  refine ⟨queue, _, ⟨_, _, _, _, _, rfl, List.suffix_refl _, rfl⟩,
    (runStop_dismissed standing runs.1 runs.2).trans ?_⟩
  rw [same, stops]
  exact Quiet.steps ⟨_, _, _, _, _, rfl, List.suffix_refl _, rfl⟩ _

/-- A caller that waits for the end of a process, or for that of background tasks, has not begun to
ask for the daemon to run. -/
theorem Halting.not_start (halting : session.Halting id pid) (enters : Bool) :
    session.stage? id ≠ some (.start enters) := by
  intro asks
  rcases halting.caller with waiting | cancelled | ⟨-, -, ⟨tasks, waiting⟩ | ⟨ending, ended⟩⟩
  · cases stage?_inj asks waiting
  · cases stage?_inj asks cancelled
  · cases stage?_inj asks waiting
  · cases stage?_inj asks ended

theorem Halting.of_returned {text : Option String} (halting : session.Halting id pid)
    (returned : session.stage? id = some (.ended (.returned text))) :
    session.hasExited pid ∧ session.handle.background = [] := by
  rcases halting.caller with waiting | cancelled | ⟨exited, empty, -⟩
  · cases stage?_inj returned waiting
  · cases stage?_inj returned cancelled
  · exact ⟨exited, empty⟩

/-- What is true of a stopped daemon from the moment on at which a caller dismisses it. -/
structure Ends (first session : Session) (id : TaskId) (pid : Pid) : Prop where
  halting : session.Halting id pid
  awaits : session.Awaits
  fewer : ∀ other, session.world.HasLiveDaemon other → first.world.HasLiveDaemon other
  alone : first.IsAlone id →
    (∀ task stage, first.stage? task = some stage → stage.charge? = some pid →
      first.isFlagged task = false) → session.HaltsAlone id pid

theorem Ends.step {first : Session} (ends : first.Ends session id pid)
    (rests : after.Stands .resting) (step : Step mover session after) :
    first.Ends after id pid where
  halting := ends.halting.step step rests
  awaits := ends.awaits.step step
  fewer other live := ends.fewer other (live_of_resting ends.halting.resting step rests live)
  alone only wanted := (ends.alone only wanted).step ends.halting step

theorem Ends.leaves {first : Session} {text : Option String} (ends : first.Ends session id pid)
    (returned : session.stage? id = some (.ended (.returned text))) :
    first.Leaves session id pid := by
  obtain ⟨exited, empty⟩ := ends.halting.of_returned returned
  refine ⟨exited, ?_, ?_⟩
  · intro task stage here looks
    have flagged : session.isFlagged task := by
      apply (ends.halting.minded task stage here looks).resolve_left
      intro member
      rw [empty] at member
      cases member
    exact ⟨flagged, ends.awaits task stage here (by rw [looks]; rfl) flagged⟩
  · intro only wanted task stage here looks
    rcases (ends.alone only wanted).attended task stage here looks with
      ⟨waiting, -⟩ | ⟨tasks, waiting, -⟩ | cancelled
    · cases stage?_inj returned waiting
    · cases stage?_inj returned waiting
    · cases stage?_inj returned cancelled

/-- A caller that is heard while the daemon runs ends it by the same move. -/
theorem ends_of_move (stands : session.Stands phase) (minds : session.Minds)
    (awaits : session.Awaits) (hears : session.HearsStop id move) (runs : session.RunsAs pid) :
    session.Ends (session.move move) id pid := by
  obtain ⟨queue, message, quiet, steps⟩ := move_of_running hears runs
  have standing := (runs.stands stands).quiet quiet
  have stages : queue.stage? = session.stage? := stage?_of_tasks quiet.tasks
  have flags : queue.isFlagged = session.isFlagged := isFlagged_of_tasks quiet.tasks
  have asks : queue.stage? id = some .stop := stages ▸ hears.asks
  have queues : Step none session queue := .quiet quiet
  have minded : queue.Minds := minds.step stands queues
  have step : Step (some id) queue
      ((queue.dismiss pid message).moveTo id (.awaitTermination pid)) :=
    .dismiss asks standing.status standing.process message
  have halting := halting_of_dismiss standing minded asks message
  have outset : session.Ends ((queue.dismiss pid message).moveTo id (.awaitTermination pid))
      id pid :=
    { halting := halting
      awaits := (awaits.step queues).step step
      fewer := fun other live => quiet.live (live_of_resting standing step halting.resting live)
      alone := fun only wanted => haltsAlone_of_dismiss standing minded asks message
        (fun other charge waiting => only other charge (stages ▸ waiting))
        fun other stage here looks => by
          rw [flags]
          exact wanted other stage (stages ▸ here) looks }
  refine (Steps.keep (session.Ends · id pid) halting.resting outset (fun _ ends step => ?_) steps).1
  refine ends.step (resting_of_step ends.halting.resting step fun _ enters moves => ?_) step
  cases moves
  exact ends.halting.not_start enters

end Rest

/-- A caller that asks for the daemon to stop does nothing if the daemon does not run. From then on
the daemon does not run until a caller asks for that, unless an attempt was unfinished; and when the
caller returns, every daemon that is alive was asked to terminate before the call, and the one that
ran has ended, with its background tasks. -/
theorem leaves_of_hearsStop {session : Session} {id : TaskId} {move : Move}
    (reachable : session.IsReachable) (hears : session.HearsStop id move) :
    (session.handle.status ≠ .running → ∃ ready,
        session.move move = { session.finish id (.returned none) with ready := ready }) ∧
      (session.handle.status = .running ∨ (∀ attempt, ¬ session.isAttempting attempt) →
        ∀ rest, (session.move move).HearsNoStart rest →
          ((session.move move).follow rest).handle.status =
              (if session.handle.status = .running then .stopped else session.handle.status) ∧
            ∀ text, ((session.move move).follow rest).ending? id = some (.returned text) →
              (∀ pid, ((session.move move).follow rest).world.HasLiveDaemon pid →
                  .terminated pid ∈ session.deeds) ∧
                ∀ pid, session.RunsAs pid →
                  session.Leaves ((session.move move).follow rest) id pid) := by
  obtain ⟨settings, tree, before, reached⟩ := reachable
  obtain ⟨⟨minds, awaits, accounts⟩, phase, stands⟩ := follow_keep
    (fun session => session.Minds ∧ session.Awaits ∧ session.Accounts) (fresh_stands settings tree)
    ⟨fresh_minds settings tree, fresh_awaits settings tree, fresh_accounts settings tree⟩
    (fun stands holds step =>
      ⟨holds.1.step stands step, holds.2.1.step step, holds.2.2.step stands step⟩) before
  rw [← reached] at minds awaits accounts stands
  refine ⟨move_of_notRunning hears, ?_⟩
  intro idle rest deaf
  by_cases running : session.handle.status = .running
  · obtain ⟨pid, rfl, current⟩ := stands.running running
    have runs : session.RunsAs pid := ⟨running, current⟩
    have outset := ends_of_move stands minds awaits hears runs
    have ends := keep_of_follow (session.Ends · id pid) outset.halting.resting outset
      (fun _ rests ends step => ends.step rests step) rest deaf
    rw [if_pos running]
    refine ⟨ends.halting.stopped, ?_⟩
    intro text returned
    constructor
    · intro other live
      apply (accounts _ stands other (ends.fewer other live)).resolve_left
      rintro ⟨⟩
      have exited := (ends.halting.of_returned (ending?_eq_some.mp returned)).1
      cases exited.symm.trans live.not_hasExited
    · intro other ran
      cases current.symm.trans ran.2
      exact ends.leaves (ending?_eq_some.mp returned)
  · have rests := stands.resting_of_idle running (idle.resolve_left running)
    have silent : session.HearsNoStart (move :: rest) :=
      deaf.cons (not_hearsStart hears.moves hears.asks nofun)
    obtain ⟨still, fewer⟩ := rest_of_follow rests (move :: rest) silent
    rw [if_neg running]
    refine ⟨still, ?_⟩
    intro text returned
    constructor
    · intro other live
      exact (accounts _ rests other (fewer other live)).resolve_left nofun
    · intro other ran
      exact absurd ran.1 running

/-- A daemon runs while the process of an earlier one goes on, and a caller asks for it to stop. -/
def succeeding : List Move :=
  sampleIgnorance :: sampleStart 0 1001 ++ [.event .stop, .turn 4] ++ sampleStart 5 1002 ++
    [.event .stop]

theorem returns_succeeding :
    (sample.follow succeeding).Returns 9 (.turn 9) [.turn 7, .turn 8, .turn 9] where
  reachable := ⟨_, _, succeeding, rfl⟩
  hears := ⟨rfl, rfl, rfl⟩
  deaf := .cons (not_hearsStart rfl rfl nofun) (.cons (not_hearsStart rfl rfl nofun)
    (.cons (not_hearsStart rfl rfl nofun) (hearsNoStart_nil _)))
  returns := rfl

theorem leaves_succeeding :
    (sample.follow succeeding).Leaves
        (((sample.follow succeeding).move (.turn 9)).follow [.turn 7, .turn 8, .turn 9]) 9 1002 ∧
      ∀ rest, ((sample.follow succeeding).move (.turn 9)).HearsNoStart rest →
        (((sample.follow succeeding).move (.turn 9)).follow rest).handle.status = .stopped := by
  obtain ⟨reachable, hears, deaf, returns⟩ := returns_succeeding
  have running : (sample.follow succeeding).handle.status = .running := rfl
  have stops := (leaves_of_hearsStop reachable hears).2 (.inl running)
  refine ⟨((stops _ deaf).2 none returns).2 1002 ⟨running, rfl⟩, ?_⟩
  intro rest silent
  rw [(stops rest silent).1, if_pos running]

/-- A caller asks for the daemon to stop while an attempt is unfinished. -/
def attempting : List Move :=
  [.event (.start false), .turn 0, .turn 1, .event .stop]

/-- Another caller asks for the daemon to stop while one waits for the end of its process. -/
def doubling : List Move :=
  sampleIgnorance :: sampleStart 0 1001 ++ [.event .stop, .turn 4, .event .stop]

/-- The process of an earlier daemon has ended, but not its diagnostics. -/
def outliving : List Move :=
  sampleStart 0 1001 ++ [.event (.exit 1001 0), .turn 3] ++ sampleStart 4 1002 ++ [.event .stop]

/-- When a caller returns that asked for the daemon to stop, a daemon can run later whose attempt
was unfinished, processes can be alive that other callers wait for, and diagnostics of an earlier
one can still be forwarded. -/
theorem returns_with_remains :
    ((sample.follow attempting).Returns 2 (.turn 2)
        [.event (.writeErrors 1001 ['R'.toUInt8]), .turn 1] ∧
      (((sample.follow attempting).move (.turn 2)).follow
        [.event (.writeErrors 1001 ['R'.toUInt8]), .turn 1]).handle.status = .running) ∧
    ((sample.follow doubling).Returns 5 (.turn 5) [] ∧
      ((sample.follow doubling).move (.turn 5)).world.HasLiveDaemon 1001) ∧
    ((sample.follow succeeding).Returns 9 (.turn 9) [.turn 7, .turn 8, .turn 9] ∧
      (((sample.follow succeeding).move (.turn 9)).follow
        [.turn 7, .turn 8, .turn 9]).world.HasLiveDaemon 1001) ∧
    (sample.follow outliving).Returns 8 (.turn 8) [.turn 6, .turn 7, .turn 8] ∧
      ∃ diagnostics, (((sample.follow outliving).move (.turn 8)).follow
        [.turn 6, .turn 7, .turn 8]).stage? 2 = some (.relay 1001 diagnostics) := by
  refine ⟨⟨⟨⟨_, _, attempting, rfl⟩, ⟨rfl, rfl, rfl⟩, ?_, rfl⟩, rfl⟩,
    ⟨⟨⟨_, _, doubling, rfl⟩, ⟨rfl, rfl, rfl⟩, hearsNoStart_nil _, rfl⟩, _, rfl, rfl, rfl⟩,
    ⟨returns_succeeding, _, rfl, rfl, rfl⟩,
    ⟨⟨_, _, outliving, rfl⟩, ⟨rfl, rfl, rfl⟩, ?_, rfl⟩, _, rfl⟩
  · exact .cons (fun other heard => nomatch heard.moves)
      (.cons (not_hearsStart rfl rfl nofun) (hearsNoStart_nil _))
  · exact .cons (not_hearsStart rfl rfl nofun) (.cons (not_hearsStart rfl rfl nofun)
      (.cons (not_hearsStart rfl rfl nofun) (hearsNoStart_nil _)))

end EmacsSession.Session
