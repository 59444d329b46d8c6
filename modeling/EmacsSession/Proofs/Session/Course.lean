/-
This file shows how each call ends in a run in which it ends before the next one is made.
-/

import EmacsSession.Proofs.Session.Conduct

namespace EmacsSession

/-- The stages of a caller that asks for the daemon to stop, up to the one in which it has
returned. -/
def Stage.isHalting : Stage → Bool
  | .stop | .awaitTermination _ | .awaitBackground _ | .ended (.returned none) => true
  | _ => false

theorem Stage.isCaller_of_isHalting {stage : Stage} (halting : stage.isHalting)
    (going : stage.ending? = none) : stage.isCaller := by
  cases stage <;> first | rfl | cases halting | cases going

theorem Stage.isEvaluation_of_isHalting {stage : Stage} (halting : stage.isHalting) :
    stage.isEvaluation = false := by
  cases stage <;> first | rfl | cases halting

theorem Stage.eq_returned_of_isHalting {outcome : Ending}
    (halting : (Stage.ended outcome).isHalting) : outcome = .returned none := by
  cases outcome with
  | returned text =>
      cases text with
      | none => rfl
      | some text => cases halting
  | failed fault => cases halting
  | cancelled => cases halting

namespace Session

section Ends

variable {session : Session} {id : TaskId} {outcome : Ending} {move : Move} {moves : List Move}

theorem EndsAfter.tail (call : session.EndsAfter id (move :: moves) outcome) :
    (session.move move).EndsAfter id moves outcome where
  ends := call.ends
  pending earlier later split more :=
    call.pending (move :: earlier) later (congrArg (move :: ·) split) more

/-- A call that has ended makes no more moves. -/
theorem EndsAfter.eq_nil {ending : Ending} (call : session.EndsAfter id (move :: moves) outcome)
    (ended : (session.move move).stage? id = some (.ended ending)) : moves = [] := by
  by_contra more
  have pending := call.pending [move] moves rfl more
  cases (ending?_eq_some.mpr ended).symm.trans pending

/-- A call ends by the last move of a run if it is pending after each smaller number of moves. -/
theorem EndsAfter.of_take (ends : (session.follow moves).ending? id = some outcome)
    (pending : ∀ count < moves.length, (session.follow (moves.take count)).ending? id = none) :
    session.EndsAfter id moves outcome where
  ends := ends
  pending earlier later split more := by
    have first : earlier = moves.take earlier.length := by simp [split]
    have inside : earlier.length < moves.length := by
      rw [split, List.length_append]
      exact Nat.lt_add_of_pos_right (List.length_pos_iff.mpr more)
    rw [first]
    exact pending _ inside

end Ends

section Stop

variable {session : Session} {phase : Phase} {id : TaskId} {stage : Stage} {outcome : Ending}

theorem halting_endBackground (present : id < session.tasks.length) :
    ∃ later, (session.endBackground id).stage? id = some later ∧ later.isHalting := by
  rw [endBackground]
  generalize released : session.handle.background.foldl requestCancel
    (session.withHandle fun handle => { handle with background := [] }) = after
  have here : id < after.tasks.length := by
    rw [← released, length_foldl_requestCancel]
    exact present
  split
  next => exact ⟨_, stage?_moveTo_self here, rfl⟩
  next => exact ⟨_, stage?_moveTo_self here, rfl⟩

theorem halting_awaitExit (present : id < session.tasks.length) (pid : Pid) :
    ∃ later, (session.awaitExit id pid).stage? id = some later ∧ later.isHalting := by
  rw [awaitExit]
  split
  next => exact halting_endBackground present
  next => exact ⟨_, stage?_moveTo_self present, rfl⟩

/-- A caller that asks for the daemon to stop goes on to do so until it returns. -/
theorem halting_proceed (found : session.stage? id = some stage) (halting : stage.isHalting) :
    ∃ later, (session.proceed id stage).stage? id = some later ∧ later.isHalting := by
  have present := lt_of_stage? found
  cases stage with
  | stop =>
      rw [proceed, runStop]
      split
      next => exact ⟨_, stage?_moveTo_self present, rfl⟩
      next =>
        dsimp only
        generalize stopped : ((session.withProcess none).become .stopped).log .info
          ("Stopping " ++ session.subject) = after
        have here : id < after.tasks.length := stopped ▸ present
        split
        next => exact halting_endBackground here
        next =>
          split
          next => exact halting_awaitExit here _
          next pid _ _ => exact @halting_awaitExit (after.terminate pid) id here pid
  | awaitTermination pid => exact halting_awaitExit present pid
  | awaitBackground tasks =>
      rw [proceed, joinBackground]
      split
      next => exact ⟨_, stage?_moveTo_self present, rfl⟩
      next => exact ⟨_, stage?_moveTo_self present, rfl⟩
  | ended ending => exact ⟨_, found, halting⟩
  | _ => cases halting

theorem halting_of_move (stands : session.Stands phase) (found : session.stage? id = some stage)
    (halting : stage.isHalting) (wanted : session.isFlagged id = false) (move : Move) :
    ∃ later, (session.move move).stage? id = some later ∧ later.isHalting := by
  by_cases moves : session.mover move = some id
  · obtain ⟨ready, same⟩ := turn_eq moves found wanted
    let queue := { session with ready := session.ready.erase id }
    have standing : queue.stage? id = some stage := found
    rw [same]
    exact halting_proceed standing halting
  · exact ⟨stage, (stage?_of_move stands moves (lt_of_stage? found)).trans found, halting⟩

/-- While a caller asks for the daemon to stop, none is heard that asks for it to run, and nothing
is spawned. The caller returns. -/
theorem outcome_of_stop (conducted : session.IsConducted) (stands : session.Stands phase)
    (found : session.stage? id = some stage) (halting : stage.isHalting)
    (caller : stage.isCaller) {moves : List Move} (sequential : session.IsSequential moves)
    (call : session.EndsAfter id moves outcome) :
    outcome = .returned none ∧ session.HearsNoStart moves ∧
      (session.follow moves).books.engagements = session.books.engagements := by
  induction moves generalizing session phase stage with
  | nil =>
      cases stage?_inj found (ending?_eq_some.mp call.ends)
      cases caller
  | cons move moves inductionHypothesis =>
      have serial := conducted.serial
      obtain ⟨next, standing⟩ := stands.move move
      obtain ⟨later, here, still⟩ :=
        halting_of_move stands found halting (serial.wanted id stage found caller) move
      have silent (other : TaskId) : ¬ session.HearsStart other move := by
        intro hears
        obtain ⟨enters, asks⟩ := hears.asks
        cases serial.eq_of_caller found caller asks rfl
        cases halting
      have engagements :
          (session.move move).books.engagements = session.books.engagements := by
        refine engagements_of_move move fun other standing _ there => ⟨?_, ?_⟩
        · rintro rfl
          refine serial.not_attempting stands found caller ?_ other
            (isAttempting_iff.mpr ⟨.attempt, there, rfl⟩)
          rintro _ _ rfl
          cases halting
        · by_contra evaluates
          have evaluation : standing.isEvaluation := by simpa using evaluates
          cases serial.eq_of_caller found caller there (Stage.isCaller_of_isEvaluation evaluation)
          cases evaluation.symm.trans (Stage.isEvaluation_of_isHalting halting)
      cases going : later.ending? with
      | some ending =>
          obtain ⟨own, rfl⟩ := Stage.eq_ended (Option.isSome_iff_exists.mpr ⟨ending, going⟩)
          cases call.eq_nil here
          cases stage?_inj here (ending?_eq_some.mp call.ends)
          exact ⟨Stage.eq_returned_of_isHalting still, .cons silent (hearsNoStart_nil _),
            engagements⟩
      | none =>
          obtain ⟨returned, deaf, same⟩ := inductionHypothesis
            (conducted.move stands sequential.head) standing here still
            (Stage.isCaller_of_isHalting still going) sequential.tail call.tail
          exact ⟨returned, .cons silent deaf, same.trans engagements⟩

/-- A call that asks a running daemon to stop returns when the process has exited, and spawns
nothing. -/
theorem stops_of_call {move : Move} {rest : List Move} {pid : Pid}
    (conducted : session.IsConducted) (stands : session.Stands phase)
    (hears : session.HearsStop id move) (runs : session.RunsAs pid)
    (sequential : session.IsSequential (move :: rest))
    (call : session.EndsAfter id (move :: rest) outcome) :
    outcome = .returned none ∧ (session.follow (move :: rest)).handle.status = .stopped ∧
      (session.follow (move :: rest)).hasExited pid ∧
        (session.follow (move :: rest)).books.engagements = session.books.engagements := by
  obtain ⟨rfl, deaf, engagements⟩ :=
    outcome_of_stop conducted stands hears.asks rfl rfl sequential call
  have outset := ends_of_move stands conducted.minds conducted.awaits hears runs
  have quiet : (session.move move).HearsNoStart rest := fun before next after other split =>
    deaf (move :: before) next after other (congrArg (move :: ·) split)
  have ends := keep_of_follow (session.Ends · id pid) outset.halting.resting outset
    (fun _ rests ends step => ends.step rests step) rest quiet
  exact ⟨rfl, ends.halting.stopped, (ends.halting.of_returned (ending?_eq_some.mp call.ends)).1,
    engagements⟩

end Stop

section Evaluation

variable {session : Session} {phase : Phase} {id : TaskId} {stage : Stage} {outcome : Ending}
  {pid : Pid}

/-- A caller that evaluates goes on to do so until it ends. -/
theorem evaluation_of_move (stands : session.Stands phase) (found : session.stage? id = some stage)
    (evaluation : stage.isEvaluation) (move : Move) :
    ∃ later, (session.move move).stage? id = some later ∧
      (later.isEvaluation ∨ later.ending?.isSome) := by
  refine (Steps.keep (fun after => ∃ later, after.stage? id = some later ∧
    (later.isEvaluation ∨ later.ending?.isSome)) stands ⟨stage, found, .inl evaluation⟩
    (fun {before after _} _ here step => ?_) (move_steps stands.live move)).1
  obtain ⟨earlier, standing, evaluates | ended⟩ := here
  · have present := lt_of_stage? standing
    have inside := Nat.lt_of_lt_of_le present (length_of_step step)
    obtain ⟨later, there⟩ : ∃ later, after.stage? id = some later :=
      ⟨_, by rw [stage?, List.getElem?_eq_getElem inside]; rfl⟩
    refine ⟨later, there, ?_⟩
    rcases (arrival_of_step step there).old present with still | ⟨-, first, still, proceeds⟩
    · cases stage?_inj standing still
      exact .inl evaluates
    · cases stage?_inj standing still
      cases proceeds with
      | finish ending going => exact .inr rfl
      | abort waking =>
          cases (Stage.phase?_of_isWaking waking id).symm.trans
            (Stage.phase?_of_isEvaluation evaluates id)
      | evaluate evaluation still => exact .inl still
      | _ => cases evaluates
  · obtain ⟨ending, rfl⟩ := Stage.eq_ended ended
    exact ⟨_, ended_of_step step standing, .inr rfl⟩

/-- A daemon that ran as a process runs so after an evaluation, unless the process has exited. -/
theorem ranAs_of_call (conducted : session.IsConducted) (stands : session.Stands phase)
    (found : session.stage? id = some stage) (evaluation : stage.isEvaluation)
    (ran : session.RanAs pid) {moves : List Move} (sequential : session.IsSequential moves)
    (call : session.EndsAfter id moves outcome) : (session.follow moves).RanAs pid := by
  induction moves generalizing session phase stage with
  | nil => exact ran
  | cons move moves inductionHypothesis =>
      have caller := Stage.isCaller_of_isEvaluation evaluation
      have heard : stage.isOrder = false := by
        cases stage <;> first | rfl | cases evaluation
      have rests (notRunning : session.handle.status ≠ .running) : session.Stands .resting := by
        refine conducted.serial.resting stands notRunning found caller ?_
        rintro attempt enters rfl
        cases evaluation
      have still := ran.move stands rests
        (conducted.serial.isDeaf found caller heard (session.mover move))
      obtain ⟨next, standing⟩ := stands.move move
      obtain ⟨later, here, evaluates | ended⟩ := evaluation_of_move stands found evaluation move
      · exact inductionHypothesis (conducted.move stands sequential.head) standing here evaluates
          still sequential.tail call.tail
      · obtain ⟨ending, rfl⟩ := Stage.eq_ended ended
        cases call.eq_nil here
        exact still

/-- A call that evaluates while the daemon does not run fails at once. -/
theorem onlyEnds_of_evaluate {form input : Value} {move : Move} (serial : session.IsSerial)
    (asks : session.stage? id = some (.evaluate form input))
    (moves : session.mover move = some id) (notRunning : session.handle.status ≠ .running) :
    session.OnlyEnds (session.move move) id
      (.failed (.notStarted session.handle.settings.name)) := by
  obtain ⟨ready, same⟩ := turn_eq moves asks (serial.wanted id _ asks rfl)
  have idle : (session.handle.status != .running) = true := by simpa using notRunning
  refine ⟨ready, ?_⟩
  rw [same]
  simp only [proceed, runEvaluate, idle, if_true]
  rfl

end Evaluation

/-- The daemon ran as this process at some moment of these moves. -/
def Sees (session : Session) (moves : List Move) (pid : Pid) : Prop :=
  ∃ before after, moves = before ++ after ∧ (session.follow before).RunsAs pid

/-- How a call ends by which an attempt began, with what was spawned since earlier spawns. A process
that became the daemon's was seen to run. -/
inductive Concludes (session : Session) (earlier : List Deed) (seen : Pid → Prop) : Ending → Prop
  | returned {directory : Path} {pid : Pid} (tries : session.Tries earlier directory (some pid))
      (ran : session.RanAs pid) (saw : seen pid) (text : Option String) :
      Concludes session earlier seen (.returned text)
  | failed {fault : Fault} (fails : session.Fails earlier fault)
      (stopped : session.handle.status = .stopped) :
      Concludes session earlier seen (.failed fault)

section Start

variable {session : Session} {phase : Phase} {id attempt : TaskId} {enters : Bool}
  {outcome : Ending} {earlier : List Deed} {seen : Pid → Prop}

theorem Tries.eq_of_tries {first second : Path} {one two : Option Pid}
    (tries : session.Tries earlier first one) (tried : session.Tries earlier second two) :
    one = two :=
  (Deed.spawned.inj (List.cons.inj (tries.symm.trans tried)).1).1

/-- A caller that is not to be cancelled waits for an attempt until that ends, and ends so too. -/
theorem passes_of_move (stands : session.Stands phase)
    (waits : session.stage? id = some (.awaitAttempt attempt enters))
    (wanted : session.isFlagged id = false) (move : Move) :
    (session.move move).stage? id = some (.awaitAttempt attempt enters) ∨
      ∃ ending outcome, session.ending? attempt = some ending ∧ ending.Passes outcome ∧
        (session.move move).stage? id = some (.ended outcome) := by
  have present := lt_of_stage? waits
  by_cases moves : session.mover move = some id
  · obtain ⟨ready, same⟩ := turn_eq moves waits wanted
    let queue := { session with ready := session.ready.erase id }
    have here : id < queue.tasks.length := present
    rw [same]
    exact (joinAttempt_stage? here enters).imp_left And.right
  · exact .inl ((stage?_of_move stands moves present).trans waits)

/-- Nothing is spawned while a caller still waits for an attempt that has ended. -/
theorem engagements_of_ended (serial : session.IsSerial) (stands : session.Stands phase)
    (waits : session.stage? id = some (.awaitAttempt attempt enters)) {ending : Ending}
    (ended : session.stage? attempt = some (.ended ending)) (move : Move) :
    (session.move move).books.engagements = session.books.engagements := by
  refine engagements_of_move move fun other stage _ found => ?_
  by_cases same : other = attempt
  · subst same
    cases stage?_inj found ended
    exact ⟨nofun, rfl⟩
  · exact serial.silent stands waits same found

/-- The process of an attempt that has returned was seen to run. -/
def Told (session : Session) (attempt : TaskId) (earlier : List Deed) (seen : Pid → Prop) : Prop :=
  ∀ text directory pid, session.stage? attempt = some (.ended (.returned text)) →
    session.Tries earlier directory (some pid) → seen pid

theorem Told.move {move : Move} (told : session.Told attempt earlier seen)
    (serial : session.IsSerial) (stands : session.Stands phase)
    (waits : session.stage? id = some (.awaitAttempt attempt enters))
    (undertaken : session.IsUndertaken earlier attempt)
    (later : (session.move move).IsUndertaken earlier attempt)
    (shows : ∀ pid, (session.move move).RunsAs pid → seen pid) :
    (session.move move).Told attempt earlier seen := by
  intro text directory pid returned tries
  obtain ⟨stage, found, undertakes⟩ := undertaken
  cases going : stage.ending? with
  | some own =>
      obtain ⟨ending, rfl⟩ := Stage.eq_ended (Option.isSome_iff_exists.mpr ⟨own, going⟩)
      cases stage?_inj returned (ended_of_follow stands found [move])
      exact told text directory pid found
        (tries.keep (engagements_of_ended serial stands waits found move).symm
          (settings_of_move stands move).symm)
  | none =>
      -- The attempt has returned by this move, so that the daemon runs now.
      have attempting : session.isAttempting attempt := by
        refine isAttempting_iff.mpr ⟨stage, found, ?_⟩
        cases undertakes <;> first | rfl | cases going
      rcases isAttempting_of_move stands attempting move with still | ⟨ending, ended, running, -⟩
      · obtain ⟨standing, here, own⟩ := isAttempting_iff.mp still
        cases stage?_inj here returned
        cases own
      · cases stage?_inj ended returned
        have runs := running text rfl
        obtain ⟨standing, here, tells⟩ := later
        cases stage?_inj here returned
        cases tells with
        | @returned _ other tried ran =>
            cases tries.eq_of_tries tried
            rcases ran with now | ⟨stopped, -⟩
            · exact shows pid now
            · cases runs.symm.trans stopped

/-- A caller that waits for an attempt ends as the attempt has. -/
theorem concludes_of_waiting (conducted : session.IsConducted) (stands : session.Stands phase)
    (waits : session.stage? id = some (.awaitAttempt attempt enters))
    (undertaken : session.IsUndertaken earlier attempt)
    (told : session.Told attempt earlier seen) {moves : List Move}
    (shows : ∀ before after pid, moves = before ++ after → (session.follow before).RunsAs pid →
      seen pid)
    (sequential : session.IsSequential moves) (call : session.EndsAfter id moves outcome) :
    (session.follow moves).Concludes earlier seen outcome := by
  induction moves generalizing session phase with
  | nil => cases stage?_inj waits (ending?_eq_some.mp call.ends)
  | cons move moves inductionHypothesis =>
      have serial := conducted.serial
      obtain ⟨next, standing⟩ := stands.move move
      have later : (session.move move).IsUndertaken earlier attempt :=
        undertaken.move serial stands conducted.fair conducted.usable waits
      have tells : (session.move move).Told attempt earlier seen :=
        told.move serial stands waits undertaken later fun pid => shows [move] moves pid rfl
      rcases passes_of_move stands waits (serial.wanted id _ waits rfl) move with
        still | ⟨ending, early, ended, passes, finished⟩
      · refine inductionHypothesis (conducted.move stands sequential.head) standing still later
          tells (fun before after pid split => ?_) sequential.tail call.tail
        exact shows (move :: before) after pid (congrArg (move :: ·) split)
      · cases call.eq_nil finished
        cases stage?_inj finished (ending?_eq_some.mp call.ends)
        have done := ended_of_follow stands (ending?_eq_some.mp ended) [move]
        obtain ⟨stage, here, undertakes⟩ := later
        cases stage?_inj done here
        cases undertakes with
        | @returned directory pid tries ran text =>
            cases passes with
            | returned _ own => exact .returned tries ran (tells text directory pid here tries) own
        | failed fails stopped =>
            cases passes with
            | failed => exact .failed fails stopped

/-- A call that asks for a daemon to run that does not run ends as the attempt that begins by it. -/
theorem concludes_of_call {move : Move} {rest : List Move} (conducted : session.IsConducted)
    (stands : session.Stands phase) (hears : session.HearsStart id move)
    (notRunning : session.handle.status ≠ .running)
    (sequential : session.IsSequential (move :: rest))
    (call : session.EndsAfter id (move :: rest) outcome) :
    (session.follow (move :: rest)).Concludes session.books.engagements
      (session.Sees (move :: rest)) outcome := by
  obtain ⟨begun, enters, waits⟩ := asks_of_start conducted.serial hears notRunning
  obtain ⟨next, standing⟩ := stands.move move
  have none : (session.move move).books.engagements = session.books.engagements := by
    obtain ⟨entering, asks⟩ := hears.asks
    refine congrArg Books.engagements (books_of_turn hears.moves fun stage found => ?_)
    cases stage?_inj found asks
    exact ⟨nofun, rfl⟩
  refine concludes_of_waiting (conducted.move stands sequential.head) standing waits
    ⟨.attempt, begun, .asks none⟩ ?_ ?_ sequential.tail call.tail
  · intro text directory pid returned
    cases stage?_inj returned begun
  · intro before after pid split runs
    exact ⟨move :: before, after, congrArg (move :: ·) split, runs⟩

end Start

end Session

end EmacsSession
