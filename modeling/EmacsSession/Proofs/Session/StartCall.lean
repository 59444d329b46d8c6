/-
This file shows when the outcome of a call that asks for the daemon to run is about the present.
-/

import EmacsSession.Proofs.Session.Waiting

namespace EmacsSession.Session

/-- A caller that asks for the daemon to run is heard by this move: it goes on for the first time,
and its cancellation was not requested before. -/
structure HearsStart (session : Session) (id : TaskId) (move : Move) : Prop where
  asks : ∃ enters, session.stage? id = some (.start enters)
  wanted : session.isFlagged id = false
  moves : session.mover move = some id

/-- A caller ends so by the last move of a run. -/
structure EndsAfter (session : Session) (id : TaskId) (moves : List Move) (outcome : Ending) :
    Prop where
  ends : (session.follow moves).ending? id = some outcome
  pending : ∀ earlier later, moves = earlier ++ later → later ≠ [] →
    (session.follow earlier).ending? id = none

/-- The outcome of a call is about the present: a caller that returns saw the daemon run at some
moment of the call, and one that fails saw an attempt fail that was unfinished at some moment of the
call. -/
def IsPresent (session : Session) (moves : List Move) : Ending → Prop
  | .returned _ => ∃ earlier later, moves = earlier ++ later ∧
      (session.follow earlier).handle.status = .running
  | .failed fault => ∃ earlier later attempt, moves = earlier ++ later ∧
      (session.follow earlier).isAttempting attempt ∧
        (session.follow moves).ending? attempt = some (.failed fault)
  | .cancelled => True

/-- What becomes of a caller when it is heard. -/
inductive Heard (session after : Session) (id : TaskId) : Prop
  | greet (running : session.handle.status = .running) (text : Option String)
      (ends : after.stage? id = some (.ended (.returned text)))
  | tell {attempt : TaskId} {ending outcome : Ending}
      (notRunning : session.handle.status ≠ .running)
      (memo : session.handle.attempt = some attempt)
      (ended : session.ending? attempt = some ending) (passes : ending.Passes outcome)
      (ends : after.stage? id = some (.ended outcome))
      (alone : after.tasks.length = session.tasks.length)
      (still : after.handle.status = session.handle.status)
  | join {attempt : TaskId} {enters : Bool} (notRunning : session.handle.status ≠ .running)
      (memo : session.handle.attempt = some attempt) (pending : session.ending? attempt = none)
      (waits : after.stage? id = some (.awaitAttempt attempt enters))
      (alone : after.tasks.length = session.tasks.length)
  | ask {enters : Bool} (notRunning : session.handle.status ≠ .running)
      (free : session.handle.attempt = none)
      (waits : after.stage? id = some (.awaitAttempt session.tasks.length enters))
      (begun : after.stage? session.tasks.length = some .attempt)

section Heard

variable {session after : Session} {phase : Phase} {id attempt : TaskId} {move : Move}

theorem stage?_inj {first second : Stage} (one : session.stage? id = some first)
    (two : session.stage? id = some second) : first = second :=
  Option.some.inj (one.symm.trans two)

theorem joinAttempt_stage? (present : id < session.tasks.length) (enters : Bool) :
    (session.ending? attempt = none ∧ (session.joinAttempt id attempt enters).stage? id =
        some (.awaitAttempt attempt enters)) ∨
      ∃ ending outcome, session.ending? attempt = some ending ∧ ending.Passes outcome ∧
        (session.joinAttempt id attempt enters).stage? id = some (.ended outcome) := by
  have forgotten (outcome : Ending) : ((session.forget attempt).finish id outcome).stage? id =
      some (.ended outcome) := stage?_moveTo_self (by rwa [forget_tasks])
  rw [joinAttempt]
  split
  next pending => exact .inl ⟨pending, stage?_moveTo_self present⟩
  next text ended => exact .inr ⟨_, _, ended, .returned _ _, forgotten _⟩
  next ending other ended =>
    refine .inr ⟨ending, ending, ended, ?_, forgotten ending⟩
    cases ending with
    | returned text => exact absurd rfl (other text)
    | failed fault => exact .failed fault
    | cancelled => exact .cancelled

theorem joinAttempt_length (enters : Bool) :
    (session.joinAttempt id attempt enters).tasks.length = session.tasks.length := by
  rw [joinAttempt]
  split <;> simp

theorem joinAttempt_status (enters : Bool) :
    (session.joinAttempt id attempt enters).handle.status = session.handle.status := by
  rw [joinAttempt]
  split <;> simp

theorem heard_of_runStart {enters : Bool} (asks : session.stage? id = some (.start enters)) :
    Heard session (session.runStart id enters) id := by
  have present := lt_of_stage? asks
  rw [runStart]
  split
  next running =>
    exact .greet (by simpa using running) _ (stage?_moveTo_self present)
  next notRunning =>
    replace notRunning : session.handle.status ≠ .running := by simpa using notRunning
    split
    next attempt memo =>
      have alone := @joinAttempt_length session id attempt enters
      rcases @joinAttempt_stage? session id attempt present enters with
        ⟨pending, waits⟩ | ⟨ending, outcome, ended, passes, ends⟩
      · exact .join notRunning memo pending waits alone
      · exact .tell notRunning memo ended passes ends alone (joinAttempt_status enters)
    next free =>
      dsimp only
      generalize asked : (session.begin .attempt).withHandle (fun handle =>
        { handle with attempt := some session.tasks.length }) = asking
      have begun : asking.stage? session.tasks.length = some .attempt := by
        rw [← asked]
        exact stage?_begin_self
      have pending : asking.ending? session.tasks.length = none := by rw [ending?, begun]; rfl
      have here : id < asking.tasks.length := by
        rw [← asked]
        simpa using Nat.lt_succ_of_lt present
      rw [joinAttempt, pending]
      refine .ask notRunning free (stage?_moveTo_self here) ?_
      rw [stage?_moveTo_of_ne (Nat.ne_of_gt present), begun]

/-- A turn changes tasks and handle as the task does that goes on. -/
theorem move_eq (moves : session.mover move = some id) :
    ∃ ready, session.move move =
      { ({ session with ready := session.ready.erase id } : Session).resume id with
        ready := ready } := by
  rcases move_of_mover moves with turn | turn <;> exact ⟨_, turn⟩

/-- Nothing happens in the turn of a task that is not there. -/
theorem absent_eq (moves : session.mover move = some id) (absent : session.stage? id = none) :
    ∃ ready, session.move move = { session with ready := ready } := by
  obtain ⟨ready, same⟩ := move_eq moves
  let queue := { session with ready := session.ready.erase id }
  have unmoved : queue.resume id = queue := resume_of_absent absent
  exact ⟨ready, by rw [same, unmoved]⟩

/-- A turn of a task that is not to be cancelled changes tasks and handle as its stage tells. -/
theorem turn_eq {stage : Stage} (moves : session.mover move = some id)
    (found : session.stage? id = some stage) (wanted : session.isFlagged id = false) :
    ∃ ready, session.move move =
      { ({ session with ready := session.ready.erase id } : Session).proceed id stage with
        ready := ready } := by
  obtain ⟨ready, same⟩ := move_eq moves
  let queue := { session with ready := session.ready.erase id }
  have standing : queue.stage? id = some stage := found
  have unflagged : queue.isFlagged id = false := wanted
  have proceeds : queue.resume id = queue.proceed id stage := by
    rw [resume_of_stage standing, unflagged]
    rfl
  exact ⟨ready, by rw [same, proceeds]⟩

/-- A turn of a task that is to be cancelled, and simply ends then, changes nothing else. -/
theorem yield_eq {stage : Stage} (moves : session.mover move = some id)
    (found : session.stage? id = some stage) (yielding : stage.isYielding)
    (flagged : session.isFlagged id) :
    ∃ ready, session.move move = { session.finish id .cancelled with ready := ready } := by
  obtain ⟨ready, same⟩ := move_eq moves
  let queue := { session with ready := session.ready.erase id }
  have standing : queue.stage? id = some stage := found
  have marked : queue.isFlagged id = true := flagged
  have yields : queue.resume id = queue.finish id .cancelled := by
    rw [resume_of_stage standing, marked]
    cases stage <;> first | rfl | cases yielding
  exact ⟨ready, by rw [same, yields]; rfl⟩

theorem heard_of_move (hears : session.HearsStart id move) :
    Heard session (session.move move) id := by
  obtain ⟨⟨enters, asks⟩, wanted, moves⟩ := hears
  obtain ⟨ready, same⟩ := move_eq moves
  let queue := { session with ready := session.ready.erase id }
  have standing : queue.stage? id = some (.start enters) := asks
  have unflagged : queue.isFlagged id = false := wanted
  have resumes : queue.resume id = queue.runStart id enters := by
    rw [resume_of_stage standing, unflagged]
    rfl
  have heard := heard_of_runStart standing
  rw [same, resumes]
  cases heard with
  | greet running text ends => exact .greet running text ends
  | tell notRunning memo ended passes ends alone still =>
      exact .tell notRunning memo ended passes ends alone still
  | join notRunning memo pending waits alone => exact .join notRunning memo pending waits alone
  | ask notRunning free waits begun => exact .ask notRunning free waits begun

/-- A task that does not go on stays in its stage. -/
theorem stage?_of_move {other : TaskId} (stands : session.Stands phase)
    (moves : session.mover move ≠ some other) (present : other < session.tasks.length) :
    (session.move move).stage? other = session.stage? other := by
  let holds (after : Session) := after.stage? other = session.stage? other ∧
    session.tasks.length ≤ after.tasks.length
  have kept : holds (session.move move) := by
    refine (Steps.keep holds stands ⟨rfl, Nat.le_refl _⟩ (fun _ here step => ?_)
      (move_steps stands.live move)).1
    exact ⟨(stage?_of_step step moves (Nat.lt_of_lt_of_le present here.2)).trans here.1,
      Nat.le_trans here.2 (length_of_step step)⟩
  exact kept.1

/-- An attempt does not go on by the move by which a caller is heard. -/
theorem HearsStart.isAttempting (hears : session.HearsStart id move)
    (stands : session.Stands phase) (attempting : session.isAttempting attempt) :
    (session.move move).isAttempting attempt := by
  obtain ⟨enters, asks⟩ := hears.asks
  obtain ⟨stage, unfinished, kind⟩ := isAttempting_iff.mp attempting
  have different : session.mover move ≠ some attempt := by
    rw [hears.moves]
    rintro ⟨⟩
    cases stage?_inj asks unfinished
    cases kind
  have there := stage?_of_move stands different (lt_of_stage? unfinished)
  exact isAttempting_iff.mpr ⟨stage, there.trans unfinished, kind⟩

end Heard

section Calls

variable {session : Session} {phase : Phase} {id attempt : TaskId} {enters : Bool}
  {outcome : Ending}

/-- A caller that waits for an attempt that has ended ends as the attempt, or is cancelled. -/
theorem passes_of_follow {ending : Ending} (stands : session.Stands phase)
    (waiting : session.stage? id = some (.awaitAttempt attempt enters))
    (ended : session.stage? attempt = some (.ended ending)) (moves : List Move)
    (ends : (session.follow moves).stage? id = some (.ended outcome)) (own : outcome ≠ .cancelled) :
    ending.Passes outcome := by
  induction moves generalizing session phase with
  | nil => cases stage?_inj waiting ends
  | cons move moves inductionHypothesis =>
      obtain ⟨next, standing⟩ := stands.move move
      rcases awaitAttempt_of_move stands waiting move with still | ⟨early, finished, how⟩
      · exact inductionHypothesis standing still (ended_of_follow stands ended [move]) ends
      · cases stage?_inj (ended_of_follow standing finished moves) ends
        obtain ⟨other, had, passes⟩ := how.resolve_left own
        cases stage?_inj (ending?_eq_some.mp had) ended
        exact passes

/-- A caller that waits for an unfinished attempt ends as the attempt does, or is cancelled. The
daemon runs when the attempt returns. -/
theorem outcome_of_follow (stands : session.Stands phase)
    (waiting : session.stage? id = some (.awaitAttempt attempt enters))
    (attempting : session.isAttempting attempt) (moves : List Move)
    (ends : (session.follow moves).stage? id = some (.ended outcome)) (own : outcome ≠ .cancelled) :
    (∃ fault, outcome = .failed fault ∧
        (session.follow moves).stage? attempt = some (.ended (.failed fault))) ∨
      ∃ text earlier later, outcome = .returned text ∧ moves = earlier ++ later ∧
        (session.follow earlier).handle.status = .running := by
  induction moves generalizing session phase with
  | nil => cases stage?_inj waiting ends
  | cons move moves inductionHypothesis =>
      obtain ⟨next, standing⟩ := stands.move move
      have still : (session.move move).stage? id = some (.awaitAttempt attempt enters) := by
        apply (awaitAttempt_of_move stands waiting move).resolve_right
        rintro ⟨early, finished, rfl | ⟨ending, had, -⟩⟩
        · cases stage?_inj (ended_of_follow standing finished moves) ends
          exact own rfl
        · obtain ⟨stage, unfinished, kind⟩ := isAttempting_iff.mp attempting
          cases stage?_inj unfinished (ending?_eq_some.mp had)
          cases kind
      rcases isAttempting_of_move stands attempting move with
        unfinished | ⟨ending, finished, running, -⟩
      · rcases inductionHypothesis standing still unfinished ends with failed | returned
        · exact .inl failed
        · obtain ⟨text, earlier, later, same, split, runs⟩ := returned
          exact .inr ⟨text, move :: earlier, later, same, by rw [split]; rfl, runs⟩
      · cases passes_of_follow standing still finished moves ends own with
        | returned before text =>
            exact .inr ⟨text, [move], moves, rfl, rfl, running before rfl⟩
        | failed fault => exact .inl ⟨fault, rfl, ended_of_follow standing finished moves⟩
        | cancelled => exact absurd rfl own

/-- A caller that waits for an unfinished attempt has an outcome that is about the present. -/
theorem IsPresent.of_waiting {first : Session} {move : Move} {rest : List Move}
    (stands : (first.move move).Stands phase)
    (waiting : (first.move move).stage? id = some (.awaitAttempt attempt enters))
    (attempting : (first.move move).isAttempting attempt)
    (ends : (first.follow (move :: rest)).ending? id = some outcome) (own : outcome ≠ .cancelled) :
    first.IsPresent (move :: rest) outcome := by
  rcases outcome_of_follow stands waiting attempting rest (ending?_eq_some.mp ends) own with
    ⟨fault, rfl, failed⟩ | ⟨text, earlier, later, rfl, split, runs⟩
  · exact ⟨[move], rest, attempt, rfl, attempting, ending?_eq_some.mpr failed⟩
  · exact ⟨move :: earlier, later, by rw [split]; rfl, runs⟩

theorem isStale_of_memo {ending : Ending} (notRunning : session.handle.status ≠ .running)
    (memo : session.handle.attempt = some attempt) (ended : session.ending? attempt = some ending) :
    session.IsStale :=
  ⟨notRunning, attempt, memo, by rw [hasEnded, ended]; rfl⟩

/-- No attempt is unfinished where a remembered one has ended. -/
theorem IsStale.idle (stale : session.IsStale) (stands : session.Stands phase) (id : TaskId) :
    ¬ session.isAttempting id := by
  intro attempting
  obtain ⟨-, attempt, memo, ended⟩ := stale
  obtain ⟨found, unfinished⟩ := phase?_of_isAttempting attempting
  cases memo.symm.trans (stands.memo id (stands.attempt_eq unfinished))
  obtain ⟨ending, finished⟩ := hasEnded_iff.mp ended
  obtain ⟨stage, standing, own⟩ := isAttempting_iff.mp attempting
  cases stage?_inj standing finished
  cases own

/-- A caller that is told how an attempt ended before the call learns nothing about the present. -/
theorem IsStale.not_isPresent {move : Move} {ending : Ending} (stale : session.IsStale)
    (stands : session.Stands phase) (moves : session.mover move = some id)
    (present : id < session.tasks.length)
    (ends : (session.move move).stage? id = some (.ended ending))
    (alone : (session.move move).tasks.length = session.tasks.length)
    (still : (session.move move).handle.status = session.handle.status)
    (own : outcome ≠ .cancelled) : ¬ session.IsPresent [move] outcome := by
  have idle (other : TaskId) : ¬ (session.move move).isAttempting other := by
    intro attempting
    obtain ⟨stage, standing, kind⟩ := isAttempting_iff.mp attempting
    by_cases same : other = id
    · subst same
      cases stage?_inj standing ends
      cases kind
    · have old : other < session.tasks.length := alone ▸ lt_of_stage? standing
      have different : session.mover move ≠ some other := by
        rw [moves]
        exact fun equal => same (Option.some.inj equal).symm
      rw [stage?_of_move stands different old] at standing
      exact stale.idle stands other (isAttempting_iff.mpr ⟨stage, standing, kind⟩)
  cases outcome with
  | returned text =>
      rintro ⟨earlier, later, split, running⟩
      rcases List.singleton_eq_append_iff.mp split with ⟨rfl, -⟩ | ⟨rfl, -⟩
      · exact stale.1 running
      · exact stale.1 (still.symm.trans running)
  | failed fault =>
      rintro ⟨earlier, later, attempt, split, attempting, -⟩
      rcases List.singleton_eq_append_iff.mp split with ⟨rfl, -⟩ | ⟨rfl, -⟩
      · exact stale.idle stands attempt attempting
      · exact idle attempt attempting
  | cancelled => exact absurd rfl own

end Calls

/-- The outcome of a call that asks for the daemon to run is about the present exactly if no attempt
is remembered that had ended before the call; and where no attempt is unfinished and the daemon does
not run, the call begins a new one exactly then. -/
theorem isPresent_iff_not_isStale {session : Session} {id : TaskId} {move : Move}
    (reachable : session.IsReachable) (hears : session.HearsStart id move) :
    (∀ rest outcome, session.EndsAfter id (move :: rest) outcome → outcome ≠ .cancelled →
        (session.IsPresent (move :: rest) outcome ↔ ¬ session.IsStale)) ∧
      (session.handle.status ≠ .running → (∀ attempt, ¬ session.isAttempting attempt) →
        ((session.move move).stage? session.tasks.length = some .attempt ↔ ¬ session.IsStale)) := by
  obtain ⟨settings, tree, before, reached⟩ := reachable
  have forgetful : (fresh settings tree).Remembers := nofun
  obtain ⟨remembers, phase, stands⟩ := follow_keep Remembers (fresh_stands settings tree) forgetful
    (fun _ remembers step => remembers.step step) before
  rw [← reached] at remembers stands
  obtain ⟨next, standing⟩ := stands.move move
  obtain ⟨enters, asks⟩ := hears.asks
  have unended {attempt : TaskId} (pending : session.ending? attempt = none) :
      ¬ session.hasEnded attempt := by simp [hasEnded, pending]
  constructor
  · intro rest outcome call own
    cases heard_of_move hears with
    | greet running text finished =>
        cases stage?_inj (ended_of_follow standing finished rest) (ending?_eq_some.mp call.ends)
        have present : session.IsPresent (move :: rest) (.returned text) :=
          ⟨[], move :: rest, rfl, running⟩
        exact iff_of_true present fun stale => stale.1 running
    | tell notRunning memo ended passes finished alone still =>
        have stale := isStale_of_memo notRunning memo ended
        have last : rest = [] := by
          by_contra more
          have pending := call.pending [move] rest rfl more
          cases (ending?_eq_some.mpr finished).symm.trans pending
        subst last
        have past :=
          stale.not_isPresent stands hears.moves (lt_of_stage? asks) finished alone still own
        exact iff_of_false past (not_not_intro stale)
    | @join attempt enters notRunning memo pending waits alone =>
        have attempting := (remembers attempt memo).resolve_right (unended pending)
        have still := hears.isAttempting stands attempting
        have present := IsPresent.of_waiting standing waits still call.ends own
        apply iff_of_true present
        rintro ⟨-, other, same, ended⟩
        cases memo.symm.trans same
        exact unended pending ended
    | ask notRunning free waits begun =>
        have attempting := isAttempting_iff.mpr ⟨.attempt, begun, rfl⟩
        have present := IsPresent.of_waiting standing waits attempting call.ends own
        apply iff_of_true present
        rintro ⟨-, other, same, -⟩
        cases free.symm.trans same
  · intro notRunning idle
    cases heard_of_move hears with
    | greet running text finished => exact absurd running notRunning
    | tell notRunning memo ended passes finished alone still =>
        have stale := isStale_of_memo notRunning memo ended
        refine iff_of_false ?_ (not_not_intro stale)
        intro begun
        exact absurd (lt_of_stage? begun) (Nat.not_lt.mpr (Nat.le_of_eq alone))
    | @join attempt enters notRunning memo pending waits alone =>
        exact absurd ((remembers attempt memo).resolve_right (unended pending)) (idle attempt)
    | ask notRunning free waits begun =>
        apply iff_of_true begun
        rintro ⟨-, other, same, -⟩
        cases free.symm.trans same

/-- The only caller that waits for an attempt is cancelled before the attempt returns. The daemon is
stopped then, and another caller asks for it to run. -/
def forgetting : List Move :=
  [.event (.start false), .turn 0, .turn 1, .event (.cancel 0), .turn 0,
    .event (.writeErrors 1001 ['R'.toUInt8]), .turn 1, .turn 2, .turn 3, .event .stop, .turn 4,
    .turn 2, .turn 3, .turn 4, .event (.start false)]

theorem hearsStart_forgetting : (sample.follow forgetting).HearsStart 5 (.turn 5) :=
  ⟨⟨false, rfl⟩, rfl, rfl⟩

theorem endsAfter_forgetting :
    (sample.follow forgetting).EndsAfter 5 [.turn 5] (.returned none) where
  ends := rfl
  pending earlier later split more := by
    cases earlier with
    | nil => rfl
    | cons first others => simp_all

/-- The call returns, but not to a running daemon, and it begins no attempt. -/
theorem not_isPresent_forgetting :
    ¬ (sample.follow forgetting).IsPresent [.turn 5] (.returned none) ∧
      ((sample.follow forgetting).move (.turn 5)).stage? 6 ≠ some .attempt := by
  have reachable : (sample.follow forgetting).IsReachable := ⟨_, _, forgetting, rfl⟩
  have stale : (sample.follow forgetting).IsStale := ⟨nofun, 1, rfl, rfl⟩
  have rests : sample.Stands .resting := fresh_stands _ _
  obtain ⟨phase, stands⟩ := rests.follow forgetting
  have outcomes := isPresent_iff_not_isStale reachable hearsStart_forgetting
  constructor
  · intro present
    exact (outcomes.1 [] (.returned none) endsAfter_forgetting nofun).mp present stale
  · intro begun
    exact (outcomes.2 nofun (stale.idle stands)).mp begun stale

/-- Not every outcome of a call is about the present. -/
theorem not_forall_isPresent : ¬ ∀ (session : Session) (id : TaskId) (move : Move)
    (rest : List Move) (outcome : Ending), session.IsReachable → session.HearsStart id move →
      session.EndsAfter id (move :: rest) outcome → outcome ≠ .cancelled →
        session.IsPresent (move :: rest) outcome := by
  intro claim
  have present := claim (sample.follow forgetting) 5 (.turn 5) [] (.returned none)
    ⟨_, _, forgetting, rfl⟩ hearsStart_forgetting endsAfter_forgetting nofun
  obtain ⟨earlier, later, split, running⟩ := present
  rcases List.singleton_eq_append_iff.mp split with ⟨rfl, -⟩ | ⟨rfl, -⟩
  · cases running
  · cases running

end EmacsSession.Session
