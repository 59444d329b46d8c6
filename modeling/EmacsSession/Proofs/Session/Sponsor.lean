/-
This file shows that each daemon was spawned by an attempt for which a caller has waited, and how
that attempt stands while the daemon is the one of the session.
-/

import EmacsSession.Proofs.Session.Sharing

namespace EmacsSession

/-- The stage of a caller that was not heard yet and asks for the daemon to run. -/
def Stage.isStart : Stage → Bool
  | .start _ => true
  | _ => false

theorem Stage.isOrder_of_isStart (stage : Stage) (start : stage.isStart) : stage.isOrder := by
  cases stage <;> first | rfl | cases start

namespace Session

/-- In a phase of the process the attempt is unfinished, or has returned and the daemon runs. -/
def Sponsors (session : Session) (attempt : TaskId) (pid : Pid) : Prop :=
  ∀ phase, session.Stands phase → phase.pid? = some pid → phase.attempt? = some attempt ∨
    phase = .running pid ∧ session.stage? attempt = some (.ended (.returned none))

/-- A caller waited for the attempt at some moment of a run. -/
def HasJoined (session : Session) (moves : List Move) (attempt : TaskId) : Prop :=
  ∃ before after id enters, moves = before ++ after ∧
    (session.follow before).stage? id = some (.awaitAttempt attempt enters)

section Sponsor

variable {session after : Session} {phase : Phase} {mover : Option TaskId}
  {id attempt : TaskId} {pid : Pid}

/-- The daemon becomes ready when its attempt returns. -/
theorem returned_of_ready (stands : session.Stands (.waking id pid))
    (step : Step mover session after) (runs : after.handle.status = .running) :
    after.stage? id = some (.ended (.returned none)) := by
  have starting : session.handle.status = .starting := stands.status
  have still (same : after.handle.status = session.handle.status) :
      after.stage? id = some (.ended (.returned none)) := by
    cases starting.symm.trans (same.symm.trans runs)
  cases step with
  | quiet quiet => exact still quiet.status
  | leave found ended passes => exact still (by simp)
  | abandon found flagged => exact still (by simp)
  | enter found => cases stands.eq_of_stage? found rfl
  | refuse found begins fault => cases stands.eq_of_stage? found rfl
  | ready found setting shown diagnostics =>
      cases stands.eq_of_stage? found rfl
      exact stage?_becomeReady_self (lt_of_stage? found)
  | abort found waking fault => cases runs
  | notice found exited current => cases runs
  | dismiss found running current message => cases starting.symm.trans running
  | release found exited => exact still (by simp)
  | _ => exact still rfl

theorem Sponsors.step (sponsors : session.Sponsors attempt pid) (stands : session.Stands phase)
    (step : Step mover session after)
    (own : session.world.Knows pid ∨ mover = some attempt) : after.Sponsors attempt pid := by
  intro next standing about
  obtain ⟨other, leads, passage⟩ := stands.step step
  cases leads.unique standing
  cases passage with
  | stay =>
      rcases sponsors phase stands about with unfinished | ⟨runs, returned⟩
      · exact .inl unfinished
      · exact .inr ⟨runs, ended_of_step step returned⟩
  | spawn new =>
      cases about
      left
      obtain ⟨process, there, daemon⟩ := standing.daemon rfl
      obtain ⟨id, moves, -, spawned⟩ := spawning_of_step stands step
        (Option.not_isSome_iff_eq_none.mp new) there daemon
      cases spawned.unique standing
      cases moves.symm.trans (own.resolve_left new)
      rfl
  | attach => exact .inl ((sponsors _ stands about).resolve_right fun other => nomatch other.1)
  | abort => exact .inl ((sponsors _ stands about).resolve_right fun other => nomatch other.1)
  | ready =>
      cases about
      have unfinished := (sponsors _ stands rfl).resolve_right fun other => nomatch other.1
      cases unfinished
      exact .inr ⟨rfl, returned_of_ready stands step standing.status⟩
  | ask => cases about
  | refuse => cases about
  | fail exited => cases about
  | halt ends => cases about

theorem Sponsors.move {move : Move} (sponsors : session.Sponsors attempt pid)
    (stands : session.Stands phase)
    (own : session.world.Knows pid ∨ session.mover move = some attempt) :
    (session.move move).Sponsors attempt pid := by
  let holds (later : Session) := later.Sponsors attempt pid ∧
    (later.world.Knows pid ∨ session.mover move = some attempt)
  have kept : holds (session.move move) := by
    refine (Steps.keep holds stands ⟨sponsors, own⟩ (fun standing held step => ?_)
      (move_steps stands.live move)).1
    exact ⟨held.1.step standing step held.2, held.2.imp_left (knows_of_step standing step)⟩
  exact kept.1

/-- No attempt begins by a move by which no caller is heard that asks for the daemon to run. -/
theorem attempting_of_unheard {move : Move} (stands : session.Stands phase)
    (unheard : session.IsUnheard Stage.isStart (session.mover move))
    (attempting : (session.move move).isAttempting attempt) : session.isAttempting attempt := by
  refine keep_of_unheard Stage.isOrder_of_isStart
    (fun later => later.isAttempting attempt → session.isAttempting attempt) stands
    (fun before => before) (fun standing held silent step attempting => ?_) unheard attempting
  rcases attempting_of_step standing step attempting with before | ⟨id, enters, moves, asks, -⟩
  · exact held before
  · cases silent id _ moves asks

/-- A caller that is heard while the daemon runs begins nothing. -/
theorem length_of_greeted {move : Move} (hears : session.HearsStart id move)
    (running : session.handle.status = .running) :
    (session.move move).tasks.length = session.tasks.length := by
  obtain ⟨enters, asks⟩ := hears.asks
  obtain ⟨ready, same⟩ := turn_eq hears.moves asks hears.wanted
  rw [same, proceed, runStart]
  simp [running]

/-- An attempt that begins by a move does so for a caller that waits for it. -/
theorem joined_of_new {move : Move} (stands : session.Stands phase)
    (attempting : (session.move move).isAttempting attempt)
    (new : ¬ session.isAttempting attempt) :
    ∃ id enters, (session.move move).stage? id = some (.awaitAttempt attempt enters) := by
  by_cases start : ∃ id enters, session.mover move = some id ∧
      session.stage? id = some (.start enters)
  · obtain ⟨id, enters, moves, asks⟩ := start
    obtain ⟨stage, here, kind⟩ := isAttempting_iff.mp attempting
    -- The attempt is no task that was there, so that the caller has begun it.
    have apart (same : (session.move move).tasks.length = session.tasks.length) {later : Stage}
        (there : (session.move move).stage? id = some later) (other : later.isAttempt = false) :
        False := by
      by_cases own : attempt = id
      · subst own
        cases stage?_inj there here
        cases other.symm.trans kind
      · have different : session.mover move ≠ some attempt := by
          rw [moves]
          exact fun equal => own (Option.some.inj equal).symm
        rw [stage?_of_move stands different (same ▸ lt_of_stage? here)] at here
        exact new (isAttempting_iff.mpr ⟨stage, here, kind⟩)
    cases flagged : session.isFlagged id with
    | true =>
        obtain ⟨ready, same⟩ := yield_eq moves asks rfl flagged
        rw [same] at apart
        exact (apart (moveTo_length ..) (stage?_moveTo_self (lt_of_stage? asks)) rfl).elim
    | false =>
        have hears : session.HearsStart id move := ⟨⟨enters, asks⟩, flagged, moves⟩
        cases heard_of_move hears with
        | greet running text ends => exact (apart (length_of_greeted hears running) ends rfl).elim
        | tell notRunning memo ended passes ends alone still => exact (apart alone ends rfl).elim
        | join notRunning memo pending waits alone => exact (apart alone waits rfl).elim
        | @ask entering notRunning free waits begun =>
            obtain ⟨next, standing⟩ := stands.move move
            have began := isAttempting_iff.mpr ⟨.attempt, begun, rfl⟩
            cases attempting_unique standing began attempting
            exact ⟨id, entering, waits⟩
  · refine absurd (attempting_of_unheard stands (fun id stage moves found => ?_) attempting) new
    cases stage with
    | start enters => exact absurd ⟨id, enters, moves, found⟩ start
    | _ => rfl

theorem HasJoined.append {moves : List Move} (joined : session.HasJoined moves attempt)
    (more : List Move) : session.HasJoined (moves ++ more) attempt := by
  obtain ⟨before, after, id, enters, rfl, waits⟩ := joined
  exact ⟨before, after ++ more, id, enters, List.append_assoc _ _ _, waits⟩

/-- A caller waited for every attempt that is unfinished. -/
theorem hasJoined_of_attempting (settings : Settings) (tree : Tree) (moves : List Move)
    (attempting : ((fresh settings tree).follow moves).isAttempting attempt) :
    (fresh settings tree).HasJoined moves attempt := by
  induction moves using List.reverseRecOn with
  | nil =>
      obtain ⟨stage, found, -⟩ := isAttempting_iff.mp attempting
      cases found
  | append_singleton moves move inductionHypothesis =>
      obtain ⟨phase, stands⟩ := (fresh_stands settings tree).follow moves
      by_cases before : ((fresh settings tree).follow moves).isAttempting attempt
      · exact (inductionHypothesis before).append [move]
      · rw [follow_concat] at attempting
        obtain ⟨id, enters, waits⟩ := joined_of_new stands attempting before
        refine ⟨moves ++ [move], [], id, enters, (List.append_nil _).symm, ?_⟩
        rw [follow_concat]
        exact waits

/-- Each daemon was spawned by an attempt that stands as it does, and for which a caller waited. -/
theorem sponsors_of_follow (settings : Settings) (tree : Tree) (moves : List Move) {badge : Badge}
    (member : badge ∈ ((fresh settings tree).follow moves).books.badges)
    (worker : badge.isWorker) :
    (fresh settings tree).HasJoined moves badge.spawner ∧
      ((fresh settings tree).follow moves).Sponsors badge.spawner badge.pid := by
  have start := fresh_stands settings tree
  induction moves using List.reverseRecOn with
  | nil => cases member
  | append_singleton moves move inductionHypothesis =>
      obtain ⟨phase, stands⟩ := start.follow moves
      have registered := (fresh_isRegistered settings tree).follow start moves
      rw [follow_concat] at member ⊢
      by_cases old : badge ∈ ((fresh settings tree).follow moves).books.badges
      · obtain ⟨joined, sponsors⟩ := inductionHypothesis old
        obtain ⟨process, present, rfl⟩ := List.mem_map.mp old
        have known : ((fresh settings tree).follow moves).world.Knows process.badge.pid :=
          Option.isSome_iff_exists.mpr ⟨process, stands.numbered.process? present⟩
        exact ⟨joined.append [move], sponsors.move stands (.inl known)⟩
      · obtain ⟨goes, begins⟩ := spawner_of_move registered stands move member worker old
        have asked := stands.eq_of_stage? begins rfl
        have joined := hasJoined_of_attempting settings tree moves
          (isAttempting_iff.mpr ⟨.attempt, begins, rfl⟩)
        -- Before its process is spawned, no phase of the attempt is about one.
        have silent : ((fresh settings tree).follow moves).Sponsors badge.spawner badge.pid := by
          intro other standing about
          cases standing.unique (asked ▸ stands)
          cases about
        exact ⟨joined.append [move], silent.move stands (.inr goes)⟩

end Sponsor

end Session

end EmacsSession
