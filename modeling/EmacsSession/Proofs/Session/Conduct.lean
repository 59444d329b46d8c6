/-
This file shows what holds throughout a run in which each call ends before the next one is made.
-/

import EmacsSession.Proofs.Session.Undertaking

namespace EmacsSession

/-- The stages of a caller that was not heard yet and asks for the daemon to run or to stop. -/
def Stage.isOrder : Stage → Bool
  | .start _ | .stop => true
  | _ => false

theorem Stage.isCaller_of_isOrder {stage : Stage} (order : stage.isOrder) : stage.isCaller := by
  cases stage <;> first | rfl | cases order

namespace Session

/-- The task that goes on by a move, if there is one, does not begin to ask in such a stage. -/
def IsUnheard (session : Session) (orders : Stage → Bool) (mover : Option TaskId) : Prop :=
  ∀ id stage, mover = some id → session.stage? id = some stage → orders stage = false

/-- The caller that goes on by a move, if there is one, asks for the daemon neither to run nor to
stop. -/
def IsDeaf (session : Session) (mover : Option TaskId) : Prop :=
  ∀ id stage, mover = some id → session.stage? id = some stage → stage.isOrder = false

section Deaf

variable {session after : Session} {phase : Phase} {mover : Option TaskId} {id attempt : TaskId}
  {stage : Stage} {pid : Pid}

theorem IsUnheard.step {orders : Stage → Bool} (own : ∀ stage, orders stage → stage.isOrder)
    (unheard : session.IsUnheard orders mover)
    (present : ∀ id, mover = some id → id < session.tasks.length)
    (step : Step mover session after) : after.IsUnheard orders mover := by
  intro id stage moves here
  rcases (arrival_of_step step here).old (present id moves) with
    before | ⟨-, earlier, before, proceeds⟩
  · exact unheard id stage moves before
  · have silent : stage.isOrder = false := by
      cases proceeds with
      | evaluate evaluation still => cases stage <;> first | rfl | cases still
      | _ => rfl
    by_contra order
    cases silent.symm.trans (own stage (by simpa using order))

/-- What each small step keeps of which no such order is heard, a move keeps. -/
theorem keep_of_unheard {move : Move} {orders : Stage → Bool}
    (own : ∀ stage, orders stage → stage.isOrder) (holds : Session → Prop)
    (stands : session.Stands phase) (begins : holds session)
    (keeps : ∀ {mover before after phase}, before.Stands phase → holds before →
      before.IsUnheard orders mover → Step mover before after → holds after)
    (unheard : session.IsUnheard orders (session.mover move)) : holds (session.move move) := by
  have steps := move_steps stands.live move
  by_cases absent : ∃ id, session.mover move = some id ∧ session.stage? id = none
  · obtain ⟨id, moves, missing⟩ := absent
    obtain ⟨ready, same⟩ := absent_eq moves missing
    have quiet : Quiet session (session.move move) := by
      rw [same]
      exact ⟨_, _, _, _, _, rfl, List.suffix_refl _, rfl⟩
    exact keeps stands begins unheard (.quiet quiet)
  · let within (middle : Session) := holds middle ∧
      middle.IsUnheard orders (session.mover move) ∧
        ∀ id, session.mover move = some id → id < middle.tasks.length
    have present (id : TaskId) (moves : session.mover move = some id) :
        id < session.tasks.length := by
      cases found : session.stage? id with
      | none => exact absurd ⟨id, moves, found⟩ absent
      | some stage => exact lt_of_stage? found
    have kept : within (session.move move) := by
      refine (Steps.keep within stands ⟨begins, unheard, present⟩
        (fun standing here step => ?_) steps).1
      obtain ⟨held, silent, inside⟩ := here
      exact ⟨keeps standing held silent step, silent.step own inside step,
        fun id moves => Nat.lt_of_lt_of_le (inside id moves) (length_of_step step)⟩
    exact kept.1

/-- What each small step keeps of which no order is heard, a move keeps. -/
theorem keep_of_deaf {move : Move} (holds : Session → Prop) (stands : session.Stands phase)
    (begins : holds session)
    (keeps : ∀ {mover before after phase}, before.Stands phase → holds before →
      before.IsDeaf mover → Step mover before after → holds after)
    (deaf : session.IsDeaf (session.mover move)) : holds (session.move move) :=
  keep_of_unheard (fun _ order => order) holds stands begins keeps deaf

/-- A daemon that ran as a process, or rests after the exit of it. -/
def Lingers (session : Session) (pid : Pid) : Prop :=
  session.RunsAs pid ∨
    session.Stands .resting ∧ session.handle.status = .stopped ∧ session.hasExited pid

theorem Lingers.step (lingers : session.Lingers pid) (stands : session.Stands phase)
    (deaf : session.IsDeaf mover) (step : Step mover session after) : after.Lingers pid := by
  rcases lingers with runs | ⟨rests, stopped, exited⟩
  · have now := runs.stands stands
    obtain ⟨next, standing, passage⟩ := now.step step
    cases passage with
    | stay => exact .inl standing.runsAs
    | halt ends =>
        have halted : after.handle.status ≠ .running := standing.status
        refine .inr ⟨standing, ?_, ?_⟩
        · rcases shift_of_step now step with ⟨-, same⟩ | ⟨status, shift⟩
          · exact absurd (same.trans runs.1) halted
          · rw [shift.now] at halted ⊢
            have allowed := shift.allowed
            rw [runs.1] at allowed
            rcases allowed with same | leads
            · exact absurd same.symm halted
            · cases leads
              rfl
        · by_contra alive
          obtain ⟨id, moves, asks, -⟩ := stop_of_halt now step halted (by simpa using alive)
          cases deaf id .stop moves asks
  · have silent (id : TaskId) (enters : Bool) (moves : mover = some id) :
        session.stage? id ≠ some (.start enters) :=
      fun asks => nomatch deaf id (.start enters) moves asks
    exact .inr ⟨resting_of_step rests step silent, (status_of_resting rests step).trans stopped,
      hasExited_of_step rests step exited⟩

/-- A daemon that ran as a process runs so after a move by which no order is heard, unless the
process has exited. -/
theorem RanAs.move {move : Move} (ran : session.RanAs pid) (stands : session.Stands phase)
    (rests : session.handle.status ≠ .running → session.Stands .resting)
    (deaf : session.IsDeaf (session.mover move)) : (session.move move).RanAs pid := by
  have lingers : session.Lingers pid := ran.imp_right fun ⟨stopped, exited⟩ =>
    ⟨rests (by rw [stopped]; nofun), stopped, exited⟩
  exact (keep_of_deaf (Lingers · pid) stands lingers
    (fun standing held silent step => held.step standing silent step) deaf).imp_right And.right

/-- A daemon that rests keeps its state by a move by which no order is heard. -/
theorem status_of_move {move : Move} (rests : session.Stands .resting)
    (deaf : session.IsDeaf (session.mover move)) :
    (session.move move).handle.status = session.handle.status := by
  let holds (later : Session) := later.Stands .resting ∧
    later.handle.status = session.handle.status
  have kept : holds (session.move move) := by
    refine keep_of_deaf holds rests ⟨rests, rfl⟩ (fun _ held silent step => ⟨?_, ?_⟩) deaf
    · exact resting_of_step held.1 step fun id enters moves asks => nomatch silent id _ moves asks
    · exact (status_of_resting held.1 step).trans held.2
  exact kept.2

/-- An attempt that is unfinished after a step was so before, or the caller that goes on asks for
the daemon to run. -/
theorem attempting_of_step (stands : session.Stands phase) (step : Step mover session after)
    (attempting : after.isAttempting attempt) : session.isAttempting attempt ∨
      ∃ id enters, mover = some id ∧ session.stage? id = some (.start enters) ∧
        attempt = session.tasks.length := by
  obtain ⟨next, leads, passage⟩ := stands.step step
  obtain ⟨found, unfinished⟩ := phase?_of_isAttempting attempting
  have open_ := leads.attempt_eq unfinished
  cases passage with
  | stay => exact .inl (stands.isAttempting open_)
  | ask moves asks => exact .inr ⟨_, _, moves, asks, (Option.some.inj open_).symm⟩
  | spawn new => exact .inl (stands.isAttempting open_)
  | attach => exact .inl (stands.isAttempting open_)
  | abort => exact .inl (stands.isAttempting open_)
  | refuse => cases open_
  | ready => cases open_
  | fail exited => cases open_
  | halt ends => cases open_

/-- No attempt begins by a move by which no order is heard. -/
theorem attempting_of_move {move : Move} (stands : session.Stands phase)
    (deaf : session.IsDeaf (session.mover move))
    (attempting : (session.move move).isAttempting attempt) : session.isAttempting attempt := by
  refine keep_of_deaf (fun later => later.isAttempting attempt → session.isAttempting attempt)
    stands id (fun standing held silent step attempting => ?_) deaf attempting
  rcases attempting_of_step standing step attempting with before | ⟨id, enters, moves, asks, -⟩
  · exact held before
  · cases silent id _ moves asks

/-- The daemon begins to start only in the turn of an attempt. -/
theorem starting_of_step (step : Step mover session after)
    (idle : ∀ id, mover = some id → ¬ session.isAttempting id)
    (starting : after.handle.status = .starting) : session.handle.status = .starting := by
  cases step with
  | quiet quiet => exact quiet.status.symm.trans starting
  | leave found ended passes => simpa using starting
  | abandon found flagged => simpa using starting
  | enter found => exact absurd (isAttempting_iff.mpr ⟨.attempt, found, rfl⟩) (idle _ rfl)
  | refuse found before fault => cases starting
  | ready found setting shown diagnostics => cases starting
  | abort found waking fault => cases starting
  | notice found exited current => cases starting
  | dismiss found running current message =>
      rw [moveTo_handle, dismiss_handle] at starting
      cases starting
  | release found exited =>
      rw [moveTo_handle, releaseBackground_handle] at starting
      exact starting
  | _ => exact starting

/-- No attempt begins as the task that goes on. -/
theorem not_attempting_of_step (stands : session.Stands phase) (step : Step mover session after)
    (idle : ∀ id, mover = some id → ¬ session.isAttempting id) :
    ∀ id, mover = some id → ¬ after.isAttempting id := by
  intro id moves attempting
  rcases attempting_of_step stands step attempting with
    before | ⟨other, enters, moved, asks, rfl⟩
  · exact idle id moves before
  · cases moves.symm.trans moved
    exact Nat.lt_irrefl _ (lt_of_stage? asks)

theorem starting_of_move {move : Move} (stands : session.Stands phase)
    (idle : ∀ id, session.mover move = some id → ¬ session.isAttempting id)
    (starting : (session.move move).handle.status = .starting) :
    session.handle.status = .starting := by
  let holds (later : Session) := (later.handle.status = .starting →
    session.handle.status = .starting) ∧
      ∀ id, session.mover move = some id → ¬ later.isAttempting id
  have kept : holds (session.move move) := by
    refine (Steps.keep holds stands ⟨fun same => same, idle⟩ (fun standing held step => ?_)
      (move_steps stands.live move)).1
    exact ⟨fun same => held.1 (starting_of_step step held.2 same),
      not_attempting_of_step standing step held.2⟩
  exact kept.1 starting

end Deaf

section Silence

variable {session after : Session} {phase : Phase} {id attempt : TaskId} {stage : Stage}

/-- A turn of a task that neither begins an attempt nor evaluates writes nothing into the books. -/
theorem books_of_turn {move : Move} (moves : session.mover move = some id)
    (silent : ∀ stage, session.stage? id = some stage →
      stage ≠ .attempt ∧ stage.isEvaluation = false) :
    (session.move move).books = session.books := by
  obtain ⟨ready, same⟩ := move_eq moves
  let queue := { session with ready := session.ready.erase id }
  have kept : (queue.resume id).record = queue.record := record_resume queue id silent
  rw [same]
  exact books_of_record kept

/-- No spawn is asked for by a move unless an attempt begins by it or a caller evaluates. -/
theorem engagements_of_move (move : Move)
    (silent : ∀ id stage, session.mover move = some id → session.stage? id = some stage →
      stage ≠ .attempt ∧ stage.isEvaluation = false) :
    (session.move move).books.engagements = session.books.engagements := by
  cases moves : session.mover move with
  | some id => rw [books_of_turn moves fun stage found => silent id stage moves found]
  | none =>
      cases move with
      | turn id => rw [move_of_idle moves]
      | event event => exact (books_receive moves).2

theorem exitCode?_of_move (stands : session.Stands phase) (move : Move) {pid : Pid} {code : Int}
    (exited : session.world.exitCode? pid = some code) :
    (session.move move).world.exitCode? pid = some code := by
  refine (Steps.keep (fun later => later.world.exitCode? pid = some code) stands exited
    (fun standing ended step => ?_) (move_steps stands.live move)).1
  obtain ⟨process, found, same⟩ := Option.bind_eq_some_iff.mp ended
  obtain ⟨later, there, lasts⟩ := process?_of_step standing step found
  rw [World.exitCode?, there, Option.bind_some]
  exact lasts.ended code same

theorem IsUndertaken.quiet {earlier : List Deed} (undertaken : session.IsUndertaken earlier attempt)
    (ready : List TaskId) :
    ({ session with ready := ready } : Session).IsUndertaken earlier attempt := by
  obtain ⟨stage, found, undertakes⟩ := undertaken
  exact ⟨stage, found, undertakes.keep rfl rfl (fun _ _ exited => exited) (fun _ _ ran => ran)
    fun _ stopped => stopped⟩

end Silence

section Undertaking

variable {session : Session} {phase : Phase} {id attempt : TaskId} {enters : Bool}
  {earlier : List Deed}

/-- While a caller waits for an attempt, no other one is heard or evaluates, and no other attempt
begins. -/
theorem IsSerial.silent (serial : session.IsSerial) (stands : session.Stands phase)
    (waits : session.stage? id = some (.awaitAttempt attempt enters)) {other : TaskId}
    {stage : Stage} (different : other ≠ attempt) (found : session.stage? other = some stage) :
    stage ≠ .attempt ∧ stage.isEvaluation = false := by
  constructor
  · rintro rfl
    obtain ⟨caller, entering, waiting⟩ :=
      serial.waits stands (isAttempting_iff.mpr ⟨.attempt, found, rfl⟩)
    cases serial.eq_of_caller waits rfl waiting rfl
    exact different rfl
  · by_contra evaluates
    have evaluation : stage.isEvaluation := by simpa using evaluates
    cases serial.eq_of_caller waits rfl found (Stage.isCaller_of_isEvaluation evaluation)
    cases evaluation

theorem IsSerial.isDeaf (serial : session.IsSerial) {stage : Stage}
    (found : session.stage? id = some stage) (caller : stage.isCaller)
    (heard : stage.isOrder = false) (mover : Option TaskId) : session.IsDeaf mover := by
  intro other standing _ here
  by_contra order
  have orders : standing.isOrder := by simpa using order
  cases serial.eq_of_caller found caller here (Stage.isCaller_of_isOrder orders)
  cases heard.symm.trans orders

/-- An attempt stands as its stage tells as long as a caller waits for it. -/
theorem IsUndertaken.move {move : Move} (undertaken : session.IsUndertaken earlier attempt)
    (serial : session.IsSerial) (stands : session.Stands phase) (fair : session.world.IsFair)
    (usable : session.handle.settings.IsUsable)
    (waits : session.stage? id = some (.awaitAttempt attempt enters)) :
    (session.move move).IsUndertaken earlier attempt := by
  by_cases moves : session.mover move = some attempt
  · obtain ⟨ready, same⟩ := move_eq moves
    let queue := { session with ready := session.ready.erase attempt }
    have quiet : Quiet session queue := ⟨_, _, _, _, _, rfl, List.suffix_refl _, rfl⟩
    have queued : queue.IsUndertaken earlier attempt := undertaken.quiet _
    rw [same]
    exact (isUndertaken_resume (stands.quiet quiet) usable fair queued).quiet ready
  · obtain ⟨stage, found, undertakes⟩ := undertaken
    have deaf := serial.isDeaf waits rfl rfl (session.mover move)
    have rests (ended : stage.ending?.isSome) (notRunning : session.handle.status ≠ .running) :
        session.Stands .resting := by
      refine serial.resting stands notRunning waits rfl ?_
      rintro _ _ ⟨⟩
      rwa [hasEnded, ending?, found]
    refine ⟨stage, (stage?_of_move stands moves (lt_of_stage? found)).trans found,
      undertakes.keep ?_ (settings_of_move stands move) ?_ ?_ ?_⟩
    · refine engagements_of_move move fun other standing moved here => ?_
      refine serial.silent stands waits ?_ here
      rintro rfl
      exact moves moved
    · exact fun pid code exited => exitCode?_of_move stands move exited
    · exact fun ended pid ran => ran.move stands (rests ended) deaf
    · intro ended stopped
      have notRunning : session.handle.status ≠ .running := by simp [stopped]
      exact (status_of_move (rests ended notRunning) deaf).trans stopped

end Undertaking

/-- Nothing has changed but that a caller has ended. -/
def OnlyEnds (session after : Session) (id : TaskId) (outcome : Ending) : Prop :=
  ∃ ready, after = { session.finish id outcome with ready := ready }

section Hearing

variable {session : Session} {phase : Phase} {id : TaskId} {enters : Bool}

/-- A caller that asks for a running daemon to run ends at once. -/
theorem onlyEnds_of_start {move : Move} (hears : session.HearsStart id move)
    (asks : session.stage? id = some (.start enters))
    (running : session.handle.status = .running) :
    session.OnlyEnds (session.move move) id (session.entered enters) := by
  obtain ⟨ready, same⟩ := turn_eq hears.moves asks hears.wanted
  refine ⟨ready, ?_⟩
  rw [same]
  simp only [proceed, runStart, running, beq_self_eq_true, if_true]
  rfl

/-- A caller that asks for a daemon to run that does not run waits for a new attempt. -/
theorem asks_of_start {move : Move} (serial : session.IsSerial)
    (hears : session.HearsStart id move) (notRunning : session.handle.status ≠ .running) :
    (session.move move).stage? session.tasks.length = some .attempt ∧
      ∃ enters, (session.move move).stage? id =
        some (.awaitAttempt session.tasks.length enters) := by
  obtain ⟨enters, asks⟩ := hears.asks
  have forgotten (attempt : TaskId) : session.handle.attempt ≠ some attempt := by
    intro memo
    obtain ⟨other, entering, waiting⟩ := serial.memo attempt memo
    cases serial.eq_of_caller asks rfl waiting rfl
  cases heard_of_move hears with
  | greet running text ends => exact absurd running notRunning
  | tell _ memo ended passes ends alone still => exact absurd memo (forgotten _)
  | join _ memo pending waits alone => exact absurd memo (forgotten _)
  | ask _ free waits begun => exact ⟨begun, _, waits⟩

/-- A caller that goes on for the first time, and is not to be cancelled, is heard. -/
theorem IsSerial.hearsStart {move : Move} (serial : session.IsSerial)
    (moves : session.mover move = some id) (asks : session.stage? id = some (.start enters)) :
    session.HearsStart id move :=
  ⟨⟨enters, asks⟩, serial.wanted id _ asks rfl, moves⟩

theorem IsSerial.hearsStop {move : Move} (serial : session.IsSerial)
    (moves : session.mover move = some id) (asks : session.stage? id = some .stop) :
    session.HearsStop id move :=
  ⟨asks, serial.wanted id _ asks rfl, moves⟩

/-- Either no order is heard by a move, or one caller is heard by it. -/
theorem IsSerial.orders (serial : session.IsSerial) (move : Move) :
    session.IsDeaf (session.mover move) ∨
      ∃ id, session.HearsStart id move ∨ session.HearsStop id move := by
  by_cases deaf : session.IsDeaf (session.mover move)
  · exact .inl deaf
  · simp only [IsDeaf, not_forall, Bool.not_eq_false] at deaf
    obtain ⟨id, stage, moves, asks, order⟩ := deaf
    refine .inr ⟨id, ?_⟩
    cases stage with
    | start enters => exact .inl (serial.hearsStart moves asks)
    | stop => exact .inr (serial.hearsStop moves asks)
    | _ => cases order

/-- No attempt is unfinished after a caller was heard that asks for the daemon to stop. -/
theorem not_attempting_of_stop {move : Move} {attempt : TaskId} (serial : session.IsSerial)
    (stands : session.Stands phase) (minds : session.Minds) (awaits : session.Awaits)
    (hears : session.HearsStop id move) : ¬ (session.move move).isAttempting attempt := by
  intro attempting
  by_cases running : session.handle.status = .running
  · obtain ⟨pid, -, current⟩ := stands.running running
    have ends := ends_of_move stands minds awaits hears ⟨running, current⟩
    obtain ⟨found, unfinished⟩ := phase?_of_isAttempting attempting
    cases ends.halting.resting.attempt_eq unfinished
  · obtain ⟨ready, declines⟩ := move_of_notRunning hears running
    have before : session.isAttempting attempt := by
      obtain ⟨stage, found, own⟩ := isAttempting_iff.mp attempting
      rw [declines] at found
      rcases stage?_moveTo found with ⟨-, rfl⟩ | before
      · cases own
      · exact isAttempting_iff.mpr ⟨stage, before, own⟩
    exact serial.not_attempting stands hears.asks rfl nofun attempt before

end Hearing

/-- What holds of a session in which each call ends before the next one is made, and in which
nothing fails but what the operating system may refuse. -/
structure IsConducted (session : Session) : Prop where
  serial : session.IsSerial
  fair : session.world.IsFair
  usable : session.handle.settings.IsUsable
  minds : session.Minds
  awaits : session.Awaits
  keeps : session.Keeps
  listens : session.Listens
  /-- An unfinished attempt stands as its stage tells. -/
  undertaken : ∀ attempt, session.isAttempting attempt →
    ∃ earlier, session.IsUndertaken earlier attempt
  /-- The daemon starts only while an attempt is unfinished. -/
  starting : session.handle.status = .starting → ∃ attempt, session.isAttempting attempt

namespace IsConducted

variable {session : Session} {phase : Phase}

theorem undertaken_of_move {move : Move} (conducted : session.IsConducted)
    (stands : session.Stands phase) (attempt : TaskId)
    (attempting : (session.move move).isAttempting attempt) :
    ∃ earlier, (session.move move).IsUndertaken earlier attempt := by
  have serial := conducted.serial
  rcases serial.orders move with deaf | ⟨id, hears | hears⟩
  · have before := attempting_of_move stands deaf attempting
    obtain ⟨earlier, undertaken⟩ := conducted.undertaken attempt before
    obtain ⟨caller, enters, waits⟩ := serial.waits stands before
    exact ⟨earlier, undertaken.move serial stands conducted.fair conducted.usable waits⟩
  · obtain ⟨next, standing⟩ := stands.move move
    obtain ⟨found, unfinished⟩ := phase?_of_isAttempting attempting
    by_cases running : session.handle.status = .running
    · obtain ⟨enters, asks⟩ := hears.asks
      obtain ⟨ready, same⟩ := onlyEnds_of_start hears asks running
      have still : (session.move move).handle.status = .running := by rw [same]; exact running
      obtain ⟨pid, rfl, -⟩ := standing.running still
      cases standing.attempt_eq unfinished
    · have begun := (asks_of_start serial hears running).1
      have begins : (session.move move).isAttempting session.tasks.length :=
        isAttempting_iff.mpr ⟨.attempt, begun, rfl⟩
      obtain ⟨new, asked⟩ := phase?_of_isAttempting begins
      cases (standing.attempt_eq unfinished).symm.trans (standing.attempt_eq asked)
      exact ⟨_, .attempt, begun, .asks rfl⟩
  · exact absurd attempting
      (not_attempting_of_stop serial stands conducted.minds conducted.awaits hears)

theorem starting_of_move {move : Move} (conducted : session.IsConducted)
    (stands : session.Stands phase) (starting : (session.move move).handle.status = .starting) :
    ∃ attempt, (session.move move).isAttempting attempt := by
  have serial := conducted.serial
  by_cases own : ∃ id, session.mover move = some id ∧ session.isAttempting id
  · -- The attempt that goes on would leave another state if it had ended by that.
    obtain ⟨id, moves, attempting⟩ := own
    obtain ⟨earlier, undertaken⟩ := conducted.undertaken id attempting
    obtain ⟨caller, enters, waits⟩ := serial.waits stands attempting
    obtain ⟨stage, found, undertakes⟩ : (session.move move).IsUndertaken earlier id :=
      undertaken.move serial stands conducted.fair conducted.usable waits
    cases undertakes with
    | returned tries ran text =>
        rcases ran with runs | ⟨stopped, -⟩
        · cases starting.symm.trans runs.1
        · cases starting.symm.trans stopped
    | failed fails stopped => cases starting.symm.trans stopped
    | _ => exact ⟨id, isAttempting_iff.mpr ⟨_, found, rfl⟩⟩
  · have idle (id : TaskId) (moves : session.mover move = some id) :
        ¬ session.isAttempting id := fun attempting => own ⟨id, moves, attempting⟩
    obtain ⟨attempt, attempting⟩ :=
      conducted.starting (Session.starting_of_move stands idle starting)
    obtain ⟨stage, found, kind⟩ := isAttempting_iff.mp attempting
    have different : session.mover move ≠ some attempt := fun moves => idle _ moves attempting
    have there := stage?_of_move stands different (lt_of_stage? found)
    exact ⟨attempt, isAttempting_iff.mpr ⟨stage, there.trans found, kind⟩⟩

/-- Each move keeps the conduct of a session in which each call ends before the next one is made. -/
theorem move {move : Move} (conducted : session.IsConducted) (stands : session.Stands phase)
    (allowed : session.Allows move) : (session.move move).IsConducted := by
  have steps := move_steps stands.live move
  obtain ⟨⟨minds, awaits, keeps, listens⟩, -⟩ := Steps.keep
    (fun session => session.Minds ∧ session.Awaits ∧ session.Keeps ∧ session.Listens) stands
    ⟨conducted.minds, conducted.awaits, conducted.keeps, conducted.listens⟩
    (fun stands holds step => ⟨holds.1.step stands step, holds.2.1.step step,
      holds.2.2.1.step stands step, holds.2.2.2.step stands step⟩) steps
  exact {
    serial := conducted.serial.move stands allowed
    fair := fair_of_move conducted.fair stands allowed
    usable := settings_of_move stands move ▸ conducted.usable
    minds := minds
    awaits := awaits
    keeps := keeps
    listens := listens
    undertaken := conducted.undertaken_of_move stands
    starting := conducted.starting_of_move stands }

end IsConducted

theorem fresh_isConducted {settings : Settings} (usable : settings.IsUsable) (tree : Tree) :
    (fresh settings tree).IsConducted where
  serial := fresh_isSerial settings tree
  fair := ⟨by simp [fresh], by simp [fresh]⟩
  usable := usable
  minds := fresh_minds settings tree
  awaits := fresh_awaits settings tree
  keeps := fresh_keeps settings tree
  listens := fresh_listens settings tree
  undertaken attempt attempting := by
    obtain ⟨stage, found, -⟩ := isAttempting_iff.mp attempting
    rw [fresh_stage?] at found
    cases found
  starting := by simp [fresh]

section Runs

variable {session : Session} {phase : Phase} {move : Move} {moves : List Move}

theorem IsSequential.head (sequential : session.IsSequential (move :: moves)) :
    session.Allows move :=
  sequential [] move moves rfl

theorem IsSequential.tail (sequential : session.IsSequential (move :: moves)) :
    (session.move move).IsSequential moves := by
  rintro before next after rfl
  exact sequential (move :: before) next after rfl

theorem IsSequential.append {first second : List Move}
    (sequential : session.IsSequential (first ++ second)) :
    session.IsSequential first ∧ (session.follow first).IsSequential second := by
  constructor
  · rintro before move after rfl
    exact sequential before move (after ++ second) (by simp)
  · rintro before move after rfl
    rw [← follow_append]
    exact sequential (first ++ before) move after (by simp)

theorem IsConducted.follow (conducted : session.IsConducted) (stands : session.Stands phase)
    (sequential : session.IsSequential moves) :
    (session.follow moves).IsConducted ∧ ∃ next, (session.follow moves).Stands next := by
  induction moves generalizing session phase with
  | nil => exact ⟨conducted, phase, stands⟩
  | cons move moves inductionHypothesis =>
      obtain ⟨next, standing⟩ := stands.move move
      exact inductionHypothesis (conducted.move stands sequential.head) standing sequential.tail

end Runs

end Session

end EmacsSession
