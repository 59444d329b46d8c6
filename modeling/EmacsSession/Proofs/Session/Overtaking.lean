/-
This file shows that the background tasks of a running daemon are in place unless a caller that
waited for the end of an earlier process has given them up.
-/

import Mathlib.Data.List.Induction
import EmacsSession.Proofs.Session.Background

namespace EmacsSession.Session

/-- The process was the daemon's or was to be, and is no more. -/
def IsGone (session : Session) (pid : Pid) : Prop :=
  session.world.Knows pid ∧ ∀ phase, session.Stands phase → phase.pid? ≠ some pid

/-- By this move a caller that waited for the end of a process gives all background tasks up that
the handle has now. -/
def GivesUp (session : Session) (move : Move) : Prop :=
  ∃ id pid, session.mover move = some id ∧ session.stage? id = some (.awaitTermination pid) ∧
    session.isFlagged id = false ∧ session.hasExited pid

/-- While the daemon ran as this process, a caller that waited for the end of another one gave the
background tasks up. -/
def IsOvertaken (session : Session) (moves : List Move) (pid : Pid) : Prop :=
  ∃ before move after, moves = before ++ move :: after ∧
    (session.follow before).RunsAs pid ∧ (session.follow before).GivesUp move

section Overtaking

variable {session after : Session} {phase : Phase} {mover : Option TaskId} {id : TaskId}
  {pid : Pid} {move : Move}

theorem knows_of_step (stands : session.Stands phase) (step : Step mover session after)
    (known : session.world.Knows pid) : after.world.Knows pid := by
  obtain ⟨process, found⟩ := Option.isSome_iff_exists.mp known
  obtain ⟨later, there, -⟩ := process?_of_step stands step found
  rw [World.Knows, there]
  rfl

/-- A process that is gone does not come back. -/
theorem IsGone.step (gone : session.IsGone pid) (stands : session.Stands phase)
    (step : Step mover session after) : after.IsGone pid := by
  obtain ⟨known, old⟩ := gone
  obtain ⟨next, standing, passage⟩ := stands.step step
  have different := old phase stands
  refine ⟨knows_of_step stands step known, fun other there => ?_⟩
  cases there.unique standing
  cases passage with
  | spawn new =>
      rintro ⟨⟩
      exact new known
  | stay => exact different
  | ask => nofun
  | refuse => nofun
  | attach => exact different
  | ready => exact different
  | abort => exact different
  | fail exited => nofun
  | halt ends => nofun

/-- A process is the daemon's once. -/
theorem isGone_of_step (stands : session.Stands phase) (step : Step mover session after)
    (before : session.RunsAs pid ∨ session.IsGone pid) : after.RunsAs pid ∨ after.IsGone pid := by
  rcases before with runs | gone
  · have now := runs.stands stands
    obtain ⟨next, standing, passage⟩ := now.step step
    cases passage with
    | stay => exact .inl standing.runsAs
    | halt ends =>
        refine .inr ⟨knows_of_step stands step (now.known rfl), fun other there => ?_⟩
        cases there.unique standing
        nofun
  · exact .inr (gone.step stands step)

theorem IsGone.not_runsAs (gone : session.IsGone pid) (stands : session.Stands phase) :
    ¬ session.RunsAs pid :=
  fun runs => gone.2 _ (runs.stands stands) rfl

/-- In the middle of a move from `first` that gives no background tasks up, a running daemon has
none only if it had none before the move. -/
structure Within (mover : Option TaskId) (pid : Pid) (first session : Session) : Prop where
  once : first.RunsAs pid → session.RunsAs pid ∨ session.IsGone pid
  background : session.RunsAs pid →
    (session.handle.background = [] ↔ first.RunsAs pid ∧ first.handle.background = [])
  waits : session.RunsAs pid → ∀ id other, mover = some id →
    session.stage? id ≠ some (.awaitTermination other)

theorem Within.step {first : Session} (within : Within mover pid first session)
    (stands : session.Stands phase) (step : Step mover session after) :
    Within mover pid first after := by
  have before (runs : after.RunsAs pid) (running : session.handle.status = .running) :
      session.RunsAs pid := by
    refine ⟨running, (process_of_step step runs.2).resolve_right ?_⟩
    rintro ⟨attempt, spawning⟩
    obtain ⟨other, phase, -⟩ := stands.running running
    cases phase.symm.trans (stands.eq_of_stage? spawning rfl)
  have waiting (runs : after.RunsAs pid) (id : TaskId) (other : Pid)
      (here : after.stage? id = some (.awaitTermination other)) :
      session.stage? id = some (.awaitTermination other) := by
    apply (stop_of_step step here).resolve_right
    intro stopped
    cases runs.1.symm.trans stopped.2
  refine ⟨fun ran => isGone_of_step stands step (within.once ran), fun runs => ?_,
    fun runs id other moves here => ?_⟩
  · cases tending_of_step step with
    | keep background running flags =>
        rw [background]
        exact within.background (before runs (running runs.1))
    | take moves found equal =>
        subst equal
        have waking := stands.eq_of_stage? found rfl
        subst waking
        cases stands.process.symm.trans runs.2
        simp only [becomeReady_handle, reduceCtorEq, false_iff, not_and]
        intro ran
        rcases within.once ran with runs | gone
        · cases stands.unique (runs.stands stands)
        · exact absurd rfl (gone.2 _ stands)
    | @release id other moves found exited equal =>
        subst equal
        have ran : session.RunsAs pid := by
          simpa only [RunsAs, moveTo_handle, releaseBackground_handle] using runs
        exact absurd found (within.waits ran id other moves)
  · have there := waiting runs id other here
    cases tending_of_step step with
    | keep background running flags =>
        exact within.waits (before runs (running runs.1)) id other moves there
    | take first found equal =>
        cases first.symm.trans moves
        cases found.symm.trans there
    | @release first pid moved found exited equal =>
        subst equal
        cases moved.symm.trans moves
        cases here.symm.trans (stage?_release found)

theorem endBackground_handle :
    (session.endBackground id).handle = { session.handle with background := [] } := by
  rw [endBackground]
  dsimp only
  split <;> exact foldl_requestCancel_handle _

/-- A turn of a caller that waits for the end of a process leaves the state of the daemon, and the
background tasks too unless it gives them up. -/
theorem handle_of_awaitTermination {other : Pid} (moves : session.mover move = some id)
    (waiting : session.stage? id = some (.awaitTermination other)) :
    (session.move move).handle = { session.handle with
      background := if session.isFlagged id = false ∧ session.hasExited other then []
        else session.handle.background } := by
  let queue := { session with ready := session.ready.erase id }
  have handle : (session.move move).handle = (queue.resume id).handle := by
    rcases move_of_mover moves with turn | turn <;> rw [turn] <;> rfl
  have found : queue.stage? id = some (.awaitTermination other) := waiting
  rw [handle, resume_of_stage found]
  have flags : queue.isFlagged id = session.isFlagged id := rfl
  have exits : queue.hasExited other = session.hasExited other := rfl
  cases flagged : session.isFlagged id with
  | true => simp [flags, flagged, cancelIn, queue]
  | false =>
      cases exited : session.hasExited other with
      | true =>
          simp [flags, flagged, proceed, awaitExit, exits, exited, endBackground_handle, queue]
      | false => simp [flags, flagged, proceed, awaitExit, exits, exited, queue]

/-- After a move a running daemon has no background tasks if the move gave them up, or if it ran as
the same process without them before. -/
theorem background_of_move (stands : session.Stands phase)
    (runs : (session.move move).RunsAs pid) :
    (session.move move).handle.background = [] ↔
      session.RunsAs pid ∧ (session.handle.background = [] ∨ session.GivesUp move) := by
  -- The small steps of a turn do not tell whether the turn gave the tasks up, so the turn of a
  -- caller that waits for an end is computed as a whole.
  by_cases turn : ∃ id other, session.mover move = some id ∧
      session.stage? id = some (.awaitTermination other)
  · obtain ⟨id, other, moves, waiting⟩ := turn
    have handle := handle_of_awaitTermination moves waiting
    have same : session.RunsAs pid := by simpa only [RunsAs, handle] using runs
    have gives : session.GivesUp move ↔
        session.isFlagged id = false ∧ session.hasExited other := by
      constructor
      · rintro ⟨first, pid, moved, found, given⟩
        cases moves.symm.trans moved
        cases waiting.symm.trans found
        exact given
      · exact fun given => ⟨id, other, moves, waiting, given⟩
    rw [handle, gives]
    by_cases given : session.isFlagged id = false ∧ session.hasExited other
    · simp [given, same]
    · simp [given, same]
  · have keeps : ¬ session.GivesUp move := fun ⟨id, other, moves, waiting, _⟩ =>
      turn ⟨id, other, moves, waiting⟩
    have begins : Within (session.mover move) pid session session :=
      ⟨.inl, fun runs => ⟨fun none => ⟨runs, none⟩, And.right⟩,
        fun _ id other moves waiting => turn ⟨id, other, moves, waiting⟩⟩
    have within := (Steps.keep _ stands begins (fun stands within step => within.step stands step)
      (move_steps stands.live move)).1
    simpa [keeps] using within.background runs

/-- A process that ran as the daemon runs so, or is gone, after every run. -/
theorem isGone_of_follow (stands : session.Stands phase)
    (before : session.RunsAs pid ∨ session.IsGone pid) (moves : List Move) :
    (session.follow moves).RunsAs pid ∨ (session.follow moves).IsGone pid :=
  (follow_keep (fun session => session.RunsAs pid ∨ session.IsGone pid) stands before
    (fun stands before step => isGone_of_step stands step before) moves).1

theorem isOvertaken_concat (moves : List Move) (last : Move) :
    session.IsOvertaken (moves ++ [last]) pid ↔ session.IsOvertaken moves pid ∨
      (session.follow moves).RunsAs pid ∧ (session.follow moves).GivesUp last :=
  exists_split_concat

/-- A daemon that was overtaken and runs as the same process ran as it all the time. -/
theorem IsOvertaken.runsAs {moves : List Move} {last : Move}
    (overtaken : session.IsOvertaken moves pid) (stands : session.Stands phase) {next : Phase}
    (standing : (session.follow moves).Stands next)
    (runs : ((session.follow moves).move last).RunsAs pid) : (session.follow moves).RunsAs pid := by
  obtain ⟨before, move, after, rfl, ran, -⟩ := overtaken
  obtain ⟨other, there⟩ := stands.follow before
  have later := isGone_of_follow there (.inl ran) (move :: after)
  rw [← follow_append] at later
  apply later.resolve_right
  intro gone
  obtain ⟨still, final, leads⟩ := Steps.keep (IsGone · pid) standing gone
    (fun stands gone step => gone.step stands step) (move_steps standing.live last)
  exact still.not_runsAs leads runs

/-- A running daemon has no background tasks exactly if it was overtaken. -/
theorem background_of_follow (stands : session.Stands phase)
    (idle : session.handle.status ≠ .running) (moves : List Move)
    (runs : (session.follow moves).RunsAs pid) :
    (session.follow moves).handle.background = [] ↔ session.IsOvertaken moves pid := by
  induction moves using List.reverseRecOn with
  | nil => exact absurd runs.1 idle
  | append_singleton moves last inductionHypothesis =>
      rw [follow_concat] at runs ⊢
      obtain ⟨next, standing⟩ := stands.follow moves
      rw [background_of_move standing runs, isOvertaken_concat]
      constructor
      · rintro ⟨ran, none | gives⟩
        · exact .inl ((inductionHypothesis ran).mp none)
        · exact .inr ⟨ran, gives⟩
      · rintro (overtaken | ⟨ran, gives⟩)
        · have ran := overtaken.runsAs stands standing runs
          exact ⟨ran, .inl ((inductionHypothesis ran).mpr overtaken)⟩
        · exact ⟨ran, .inr gives⟩

end Overtaking

/-- Background tasks of a running daemon are cancelled only by a caller that waited for the end of
an earlier process: they are in place exactly if no such caller has overtaken the daemon, and all of
them are to be cancelled if one has. -/
theorem isTended_iff_not_isOvertaken (settings : Settings) (tree : Tree) (moves : List Move)
    (pid : Pid) (runs : ((fresh settings tree).follow moves).RunsAs pid) :
    (((fresh settings tree).follow moves).IsTended pid ↔
        ¬ (fresh settings tree).IsOvertaken moves pid) ∧
      ((fresh settings tree).IsOvertaken moves pid → ∀ id stage,
        ((fresh settings tree).follow moves).stage? id = some stage → stage.charge? = some pid →
          ((fresh settings tree).follow moves).isFlagged id) := by
  have start := fresh_stands settings tree
  have none := background_of_follow start (by exact nofun) moves runs
  obtain ⟨⟨minds, keeps⟩, -⟩ := follow_keep
    (fun session => session.Minds ∧ session.Keeps) start
    ⟨fresh_minds settings tree, fresh_keeps settings tree⟩
    (fun stands holds step => ⟨holds.1.step stands step, holds.2.step stands step⟩) moves
  constructor
  · constructor
    · rintro ⟨relay, watch, tended⟩ overtaken
      cases tended.background.symm.trans (none.mpr overtaken)
    · intro untouched
      exact keeps pid runs.1 runs.2 fun empty => untouched (none.mp empty)
  · intro overtaken id stage found looks
    apply (minds id stage pid found looks runs.2).resolve_left
    intro member
    rw [none.mpr overtaken] at member
    cases member

/-- A caller waits for the end of a process that goes on, while another daemon becomes ready; and
then that process ends. -/
def overtaking : List Move :=
  sampleIgnorance :: sampleStart 0 1001 ++ [.event .stop, .turn 4] ++ sampleStart 5 1002 ++
    [.event (.exit 1001 0), .turn 4]

theorem isOvertaken_overtaking : (sample.follow overtaking).RunsAs 1002 ∧
    sample.IsOvertaken overtaking 1002 ∧ ¬ (sample.follow overtaking).IsTended 1002 := by
  have runs : (sample.follow overtaking).RunsAs 1002 := ⟨rfl, rfl⟩
  have overtaken : sample.IsOvertaken overtaking 1002 :=
    ⟨overtaking.dropLast, .turn 4, [], rfl, ⟨rfl, rfl⟩, 4, 1001, rfl, rfl, rfl, rfl⟩
  exact ⟨runs, overtaken, fun tended =>
    (isTended_iff_not_isOvertaken _ _ _ _ runs).1.mp tended overtaken⟩

/-- Not every running daemon is tended. -/
theorem not_forall_isTended : ¬ ∀ moves pid, (sample.follow moves).RunsAs pid →
    (sample.follow moves).IsTended pid := by
  intro claim
  obtain ⟨relay, watch, tended⟩ := claim overtaking 1002 ⟨rfl, rfl⟩
  have given : (sample.follow overtaking).handle.background = [] := rfl
  cases given.symm.trans tended.background

end EmacsSession.Session
