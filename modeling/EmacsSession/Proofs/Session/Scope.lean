/-
This file shows which daemons are alive, and whether the daemon runs, when the scope of a session
was left.
-/

import EmacsSession.Proofs.Session.Removal
import EmacsSession.Proofs.Session.Sponsor

namespace EmacsSession

/-- The move begins a call. -/
def Move.isCall : Move → Bool
  | .event (.start _) | .event .stop | .event (.evaluate _ _) => true
  | _ => false

theorem Stage.Proceeds.isCaller {stage later : Stage} (proceeds : stage.Proceeds later)
    (caller : later.isCaller) : stage.isCaller := by
  cases proceeds with
  | join => rfl
  | dismiss => rfl
  | release => rfl
  | evaluate evaluation still => exact Stage.isCaller_of_isEvaluation evaluation
  | _ => cases caller

theorem Stage.Proceeds.isStart {stage later : Stage} (proceeds : stage.Proceeds later)
    (start : later.isStart) : stage.isStart := by
  cases later with
  | start enters =>
      cases proceeds with
      | evaluate evaluation still => cases still
  | _ => cases start

theorem Stage.isCaller_of_isStart (stage : Stage) (start : stage.isStart) : stage.isCaller :=
  Stage.isCaller_of_isOrder (Stage.isOrder_of_isStart stage start)

namespace Session

/-- All calls that are unfinished are this one. -/
def IsOnlyCaller (session : Session) (id : TaskId) : Prop :=
  ∀ other stage, session.stage? other = some stage → stage.isCaller → other = id

/-- A caller was cancelled by a move of a run that waited in this stage. -/
def Cuts (session : Session) (moves : List Move) (stage : Stage) : Prop :=
  ∃ before move after id, moves = before ++ move :: after ∧
    (session.follow before).stage? id = some stage ∧
      ((session.follow before).move move).stage? id = some (.ended .cancelled)

/-- A caller was cancelled that waited for the attempt by which this process was spawned, or for the
end of the process. -/
def IsCutOff (session : Session) (moves : List Move) (pid : Pid) : Prop :=
  (∃ attempt enters, (session.follow moves).books.Owns attempt pid ∧
      session.Cuts moves (.awaitAttempt attempt enters)) ∨
    session.Cuts moves (.awaitTermination pid)

/-- The scope of a session was left in a run. It is entered with a call for the daemon to run, and
left where that call does not return. Else other calls may follow, and when all have ended, it is
left when a last call for the daemon to stop returns. -/
inductive IsLeft (session : Session) : List Move → Prop
  | unentered {before after : List Move} {ending : Ending}
      (alone : ∀ move ∈ before ++ after, move.isCall = false)
      (ended : (session.follow (before ++ .event (.start true) :: after)).stage?
        (session.follow before).tasks.length = some (.ended ending))
      (own : ∀ text, ending ≠ .returned text) :
      IsLeft session (before ++ .event (.start true) :: after)
  | exited {body after : List Move} (idle : (session.follow body).IsIdle)
      (alone : ∀ move ∈ after, move.isCall = false)
      (returned : (session.follow (body ++ .event .stop :: after)).stage?
        (session.follow body).tasks.length = some (.ended (.returned none))) :
      IsLeft session (body ++ .event .stop :: after)

section Callers

variable {session : Session} {phase : Phase} {id : TaskId} {stage : Stage}

theorem stage?_receive {event : Event} (happens : session.mover (.event event) = none)
    (silent : (Move.event event).isCall = false) :
    (session.receive event).stage? = session.stage? := by
  cases event with
  | start enters => cases silent
  | stop => cases silent
  | evaluate form input => cases silent
  | cancel other =>
      rw [receive]
      split
      next => exact stage?_requestCancel
      next => rfl
  | discardDirectory => exact stage?_of_tasks (quiet_discardDirectory session).tasks
  | tick =>
      have idle : session.ready = [] := List.head?_eq_none_iff.mp happens
      rw [receive, tick, idle]
  | _ => rfl

/-- A caller that is in a stage of a kind after a move without a call was so before, if callers
proceed to such stages from such stages only. -/
theorem earlier_of_move {move : Move} {kind : Stage → Bool} (stands : session.Stands phase)
    (silent : move.isCall = false)
    (back : ∀ {stage later : Stage}, stage.Proceeds later → kind later → kind stage)
    (own : ∀ stage, kind stage → stage.isCaller)
    (here : (session.move move).stage? id = some stage) (member : kind stage) :
    ∃ earlier, session.stage? id = some earlier ∧ kind earlier := by
  cases moves : session.mover move with
  | some mover =>
      have steps := move_steps stands.live move
      rw [moves] at steps
      refine (Steps.keep (fun later => ∀ stage, later.stage? id = some stage → kind stage →
        ∃ earlier, session.stage? id = some earlier ∧ kind earlier) stands
        (fun stage found member => ⟨stage, found, member⟩)
        (fun _ held step stage here member => ?_) steps).1 stage here member
      cases arrival_of_step step here with
      | stay before => exact held stage before member
      | proceed moves before proceeds => exact held _ before (back proceeds member)
      | call new nobody call => cases nobody
      | attempt new => cases own _ member
      | attend new given found same looks =>
          cases (Stage.isCaller_of_charge? looks).symm.trans (own _ member)
  | none =>
      cases move with
      | turn other =>
          rw [move_of_idle moves] at here
          exact ⟨stage, here, member⟩
      | event event =>
          have there : (session.receive event).stage? id = some stage := here
          rw [stage?_receive moves silent] at there
          exact ⟨stage, there, member⟩

theorem IsOnlyCaller.move {move : Move} (only : session.IsOnlyCaller id)
    (stands : session.Stands phase) (silent : move.isCall = false) :
    (session.move move).IsOnlyCaller id := by
  intro other stage here caller
  obtain ⟨earlier, before, called⟩ :=
    earlier_of_move stands silent Stage.Proceeds.isCaller (fun _ caller => caller) here caller
  exact only other earlier before called

theorem IsIdle.move {move : Move} (idle : session.IsIdle) (stands : session.Stands phase)
    (silent : move.isCall = false) : (session.move move).IsIdle := by
  intro other stage here
  by_contra caller
  obtain ⟨earlier, before, called⟩ := earlier_of_move stands silent Stage.Proceeds.isCaller
    (fun _ caller => caller) here (by simpa using caller)
  cases (idle other earlier before).symm.trans called

/-- No caller begins to ask for the daemon to run. -/
def IsStartless (session : Session) : Prop :=
  ∀ id stage, session.stage? id = some stage → stage.isStart = false

theorem IsStartless.move {move : Move} (startless : session.IsStartless)
    (stands : session.Stands phase) (silent : move.isCall = false) :
    (session.move move).IsStartless := by
  intro other stage here
  by_contra start
  obtain ⟨earlier, before, asks⟩ := earlier_of_move stands silent Stage.Proceeds.isStart
    Stage.isCaller_of_isStart here (by simpa using start)
  cases (startless other earlier before).symm.trans asks

theorem IsStartless.not_hearsStart {move : Move} (startless : session.IsStartless) (id : TaskId) :
    ¬ session.HearsStart id move := by
  rintro ⟨⟨enters, asks⟩, -, -⟩
  cases startless id _ asks

/-- What each move without a call keeps, moves without calls keep. -/
theorem keep_of_silent (holds : Session → Prop) (stands : session.Stands phase)
    (begins : holds session)
    (keeps : ∀ {before phase move}, before.Stands phase → holds before → move.isCall = false →
      holds (before.move move))
    {moves : List Move} (alone : ∀ move ∈ moves, move.isCall = false) :
    holds (session.follow moves) := by
  induction moves generalizing session phase with
  | nil => exact begins
  | cons move moves inductionHypothesis =>
      obtain ⟨silent, others⟩ := List.forall_mem_cons.mp alone
      obtain ⟨next, standing⟩ := stands.move move
      exact inductionHypothesis standing (keeps stands begins silent) others

/-- A call that is made while no other one is unfinished is the only one. -/
theorem IsIdle.isOnlyCaller_begin (idle : session.IsIdle) (call : Stage) :
    (session.begin call).IsOnlyCaller session.tasks.length := by
  intro other stage here caller
  rcases stage?_begin here with before | ⟨same, -⟩
  · cases (idle other stage before).symm.trans caller
  · exact same

/-- No call is unfinished if the only one has ended. -/
theorem IsOnlyCaller.isIdle {ending : Ending} (only : session.IsOnlyCaller id)
    (ended : session.stage? id = some (.ended ending)) : session.IsIdle := by
  intro other stage here
  by_contra caller
  cases only other stage here (by simpa using caller)
  cases stage?_inj here ended
  exact caller rfl

end Callers

section Waits

variable {session : Session} {phase : Phase} {id attempt : TaskId} {pid : Pid} {stage : Stage}
  {enters : Bool} {moves : List Move}

theorem Cuts.append (cuts : session.Cuts moves stage) (more : List Move) :
    session.Cuts (moves ++ more) stage := by
  obtain ⟨before, move, after, id, rfl, waits, cancelled⟩ := cuts
  exact ⟨before, move, after ++ more, id, by simp, waits, cancelled⟩

theorem Cuts.after {first : List Move} (cuts : (session.follow first).Cuts moves stage) :
    session.Cuts (first ++ moves) stage := by
  obtain ⟨before, move, after, id, rfl, waits, cancelled⟩ := cuts
  rw [← follow_append] at waits cancelled
  exact ⟨first ++ before, move, after, id, by simp, waits, cancelled⟩

/-- A caller that waits for an attempt is cancelled while it waits, or ends as the attempt. -/
theorem waited_of_follow (stands : session.Stands phase)
    (waits : session.stage? id = some (.awaitAttempt attempt enters)) (moves : List Move) :
    (session.follow moves).stage? id = some (.awaitAttempt attempt enters) ∨
      session.Cuts moves (.awaitAttempt attempt enters) ∨
        ∃ ending outcome, (session.follow moves).stage? attempt = some (.ended ending) ∧
          ending.Passes outcome ∧ (session.follow moves).stage? id = some (.ended outcome) := by
  induction moves using List.reverseRecOn with
  | nil => exact .inl waits
  | append_singleton moves move inductionHypothesis =>
      obtain ⟨next, standing⟩ := stands.follow moves
      rw [follow_concat]
      rcases inductionHypothesis with
        still | cuts | ⟨ending, outcome, ended, passes, finished⟩
      · rcases awaitAttempt_of_move standing still move with waits | ⟨outcome, finished, how⟩
        · exact .inl waits
        · rcases how with rfl | ⟨ending, ended, passes⟩
          · exact .inr (.inl ⟨moves, move, [], id, rfl, still, finished⟩)
          · have had := ending?_eq_some.mp (ending?_of_move standing ended move)
            exact .inr (.inr ⟨ending, outcome, had, passes, finished⟩)
      · exact .inr (.inl (cuts.append [move]))
      · exact .inr (.inr ⟨ending, outcome, ended_of_follow standing ended [move], passes,
          ended_of_follow standing finished [move]⟩)

/-- A caller that waits for the end of a process goes on by a move when the process has exited, or
is cancelled. -/
theorem awaitTermination_of_move (stands : session.Stands phase)
    (waits : session.stage? id = some (.awaitTermination pid)) (move : Move) :
    (session.move move).stage? id = some (.awaitTermination pid) ∨
      (session.move move).stage? id = some (.ended .cancelled) ∨
        (session.move move).hasExited pid := by
  refine (Steps.keep (fun later => later.stage? id = some (.awaitTermination pid) ∨
    later.stage? id = some (.ended .cancelled) ∨ later.hasExited pid) stands (.inl waits)
    (fun standing held step => ?_) (move_steps stands.live move)).1
  rcases held with waiting | cancelled | exited
  · rcases awaitTermination_of_step step waiting with still | ⟨-, cancelled⟩ | ⟨exited, -⟩
    · exact .inl still
    · exact .inr (.inl cancelled)
    · exact .inr (.inr (hasExited_of_step standing step exited))
  · exact .inr (.inl (ended_of_step step cancelled))
  · exact .inr (.inr (hasExited_of_step standing step exited))

/-- A caller that waits for the end of a process is cancelled while it waits, or the process
ends. -/
theorem terminated_of_follow (stands : session.Stands phase)
    (waits : session.stage? id = some (.awaitTermination pid)) (moves : List Move) :
    (session.follow moves).stage? id = some (.awaitTermination pid) ∨
      session.Cuts moves (.awaitTermination pid) ∨ (session.follow moves).hasExited pid := by
  induction moves using List.reverseRecOn with
  | nil => exact .inl waits
  | append_singleton moves move inductionHypothesis =>
      obtain ⟨next, standing⟩ := stands.follow moves
      rw [follow_concat]
      rcases inductionHypothesis with still | cuts | exited
      · rcases awaitTermination_of_move standing still move with waits | cancelled | exited
        · exact .inl waits
        · exact .inr (.inl ⟨moves, move, [], id, rfl, still, cancelled⟩)
        · exact .inr (.inr exited)
      · exact .inr (.inl (cuts.append [move]))
      · exact .inr (.inr (hasExited_of_move standing exited move))

end Waits

section Runs

variable {settings : Settings} {tree : Tree} {moves : List Move} {attempt : TaskId} {pid : Pid}
  {phase : Phase}

theorem minds_of_follow (settings : Settings) (tree : Tree) (moves : List Move) :
    ((fresh settings tree).follow moves).Minds ∧ ((fresh settings tree).follow moves).Awaits :=
  (follow_keep (fun later => later.Minds ∧ later.Awaits) (fresh_stands settings tree)
    ⟨fresh_minds settings tree, fresh_awaits settings tree⟩
    (fun stands held step => ⟨held.1.step stands step, held.2.step step⟩) moves).1

/-- Where all calls have ended, a daemon that was dismissed has ended unless a caller was cancelled
that waited for that. -/
theorem cut_of_dismissed (idle : ((fresh settings tree).follow moves).IsIdle)
    (dismissed : (fresh settings tree).IsDismissed moves pid)
    (alive : ((fresh settings tree).follow moves).hasExited pid = false) :
    (fresh settings tree).Cuts moves (.awaitTermination pid) := by
  obtain ⟨before, move, after, id, rfl, runs, hears⟩ := dismissed
  obtain ⟨phase, stands⟩ := (fresh_stands settings tree).follow before
  obtain ⟨next, standing⟩ := stands.move move
  obtain ⟨minds, awaits⟩ := minds_of_follow settings tree before
  obtain ⟨stage, here, halting⟩ := halting_of_move stands hears.asks rfl hears.wanted move
  have split : before ++ move :: after = (before ++ [move]) ++ after := by simp
  have later : ((fresh settings tree).follow (before ++ move :: after)) =
      (((fresh settings tree).follow before).move move).follow after := by
    rw [split, follow_append, follow_concat]
  rcases (ends_of_move stands minds awaits hears runs).halting.caller with
    waits | cancelled | ⟨exited, -⟩
  · rcases terminated_of_follow standing waits after with still | cuts | exited
    · rw [← later] at still
      cases idle id _ still
    · rw [split]
      rw [← follow_concat] at cuts
      exact cuts.after
    · rw [← later] at exited
      cases alive.symm.trans exited
  · cases stage?_inj here cancelled
    cases halting
  · have still := keep_of_moves (fun session => session.hasExited pid) standing exited
      (fun stands exited move => hasExited_of_move stands exited move) after
    rw [← later] at still
    cases alive.symm.trans still

/-- Where all calls have ended, a caller that waited for an attempt was cancelled then, or has ended
as the attempt did. -/
theorem cut_of_joined (idle : ((fresh settings tree).follow moves).IsIdle)
    (joined : (fresh settings tree).HasJoined moves attempt) :
    (∃ enters, (fresh settings tree).Cuts moves (.awaitAttempt attempt enters)) ∨
      ∃ before after id enters ending outcome, moves = before ++ after ∧
        ((fresh settings tree).follow before).stage? id = some (.awaitAttempt attempt enters) ∧
          ((fresh settings tree).follow moves).stage? attempt = some (.ended ending) ∧
            ending.Passes outcome ∧
              ((fresh settings tree).follow moves).stage? id = some (.ended outcome) := by
  obtain ⟨before, after, id, enters, rfl, waits⟩ := joined
  obtain ⟨phase, stands⟩ := (fresh_stands settings tree).follow before
  have fate := waited_of_follow stands waits after
  rw [← follow_append] at fate
  rcases fate with still | cuts | ⟨ending, outcome, ended, passes, finished⟩
  · cases idle id _ still
  · exact .inl ⟨enters, cuts.after⟩
  · exact .inr ⟨before, after, id, enters, ending, outcome, rfl, waits, ended, passes, finished⟩

/-- Where all calls have ended, a caller was cancelled that waited for the attempt that is
unfinished. -/
theorem cut_of_attempting (idle : ((fresh settings tree).follow moves).IsIdle)
    (attempting : ((fresh settings tree).follow moves).isAttempting attempt) :
    ∃ enters, (fresh settings tree).Cuts moves (.awaitAttempt attempt enters) := by
  apply (cut_of_joined idle (hasJoined_of_attempting settings tree moves attempting)).resolve_right
  rintro ⟨-, -, -, -, ending, -, -, -, ended, -⟩
  exact not_attempting_of_ended ended attempting

/-- The daemon of a phase was spawned by a task that sponsors it. -/
theorem owned_of_follow (stands : ((fresh settings tree).follow moves).Stands phase)
    (own : phase.pid? = some pid) : ∃ badge ∈ ((fresh settings tree).follow moves).books.badges,
      badge.pid = pid ∧ badge.isWorker := by
  obtain ⟨process, there, daemon⟩ := stands.daemon own
  have number : process.pid = pid := by simpa using List.find?_some there
  exact ⟨process.badge, List.mem_map_of_mem (List.mem_of_find?_eq_some there), number, daemon⟩

end Runs

section Leaving

variable {settings : Settings} {tree : Tree} {pid : Pid} {phase : Phase}

theorem fresh_isIdle (settings : Settings) (tree : Tree) : (fresh settings tree).IsIdle := by
  intro id stage found
  cases found

theorem idle_of_silent {moves : List Move} (alone : ∀ move ∈ moves, move.isCall = false) :
    ((fresh settings tree).follow moves).IsIdle :=
  keep_of_silent IsIdle (fresh_stands settings tree) (fresh_isIdle settings tree)
    (fun stands idle silent => idle.move stands silent) alone

/-- At each moment, the only call that can be unfinished is the one that enters. -/
theorem onlyCaller_of_entry {before after first rest : List Move}
    (alone : ∀ move ∈ before ++ after, move.isCall = false)
    (split : before ++ .event (.start true) :: after = first ++ rest) :
    ((fresh settings tree).follow first).IsOnlyCaller
      ((fresh settings tree).follow before).tasks.length := by
  have never {session : Session} (idle : session.IsIdle) (id : TaskId) :
      session.IsOnlyCaller id :=
    fun other stage here caller => nomatch (idle other stage here).symm.trans caller
  obtain ⟨earlier, later⟩ := List.forall_mem_append.mp alone
  rcases List.append_eq_append_iff.mp split with ⟨more, rfl, same⟩ | ⟨more, rfl, -⟩
  · cases more with
    | nil =>
        rw [List.append_nil]
        exact never (idle_of_silent earlier) _
    | cons call others =>
        cases same
        obtain ⟨phase, stands⟩ := (fresh_stands settings tree).follow before
        obtain ⟨next, standing⟩ := stands.move (.event (.start true))
        rw [follow_append]
        refine keep_of_silent (IsOnlyCaller · _) standing ?_
          (fun stands only silent => only.move stands silent)
          (fun move member => later move (List.mem_append_left _ member))
        exact (idle_of_silent earlier).isOnlyCaller_begin _
  · exact never (idle_of_silent fun move member => earlier move (List.mem_append_left _ member)) _

/-- The daemon of a scope that was not entered was spawned for the call that was to enter, which was
cancelled. -/
theorem cut_of_unentered {before after : List Move} {ending : Ending}
    (alone : ∀ move ∈ before ++ after, move.isCall = false)
    (ended : ((fresh settings tree).follow (before ++ .event (.start true) :: after)).stage?
      ((fresh settings tree).follow before).tasks.length = some (.ended ending))
    (own : ∀ text, ending ≠ .returned text)
    (stands : ((fresh settings tree).follow (before ++ .event (.start true) :: after)).Stands phase)
    (about : phase.pid? = some pid) :
    (fresh settings tree).IsCutOff (before ++ .event (.start true) :: after) pid := by
  have only := @onlyCaller_of_entry settings tree before after
  have idle := (only alone (List.append_nil _).symm).isIdle ended
  obtain ⟨badge, member, rfl, worker⟩ := owned_of_follow stands about
  obtain ⟨joined, sponsors⟩ := sponsors_of_follow settings tree _ member worker
  have owns : ((fresh settings tree).follow
      (before ++ .event (.start true) :: after)).books.Owns badge.spawner badge.pid :=
    ⟨badge, member, rfl, rfl⟩
  rcases cut_of_joined idle joined with
    ⟨enters, cuts⟩ | ⟨first, rest, id, enters, last, outcome, split, waits, had, passes, finished⟩
  · exact .inl ⟨badge.spawner, enters, owns, cuts⟩
  · -- The attempt has returned, as the daemon is there, and so has the call.
    cases only alone split id _ waits rfl
    cases stage?_inj ended finished
    rcases sponsors phase stands about with unfinished | ⟨-, returned⟩
    · exact absurd (stands.isAttempting unfinished) (not_attempting_of_ended had)
    · cases stage?_inj had returned
      cases passes with
      | returned text told => exact absurd rfl (own told)

end Leaving

section Exit

variable {session after : Session} {phase next : Phase} {mover : Option TaskId} {id : TaskId}
  {pid : Pid}

/-- A process that is known before a step and is the one of the phase after it was so before. -/
theorem pid?_before_step (stands : session.Stands phase) (step : Step mover session after)
    (known : session.world.Knows pid) (standing : after.Stands next)
    (about : next.pid? = some pid) : phase.pid? = some pid := by
  obtain ⟨other, leads, passage⟩ := stands.step step
  cases leads.unique standing
  cases passage with
  | stay => exact about
  | spawn new =>
      cases about
      exact absurd known new
  | attach => exact about
  | ready => exact about
  | abort => exact about
  | ask => cases about
  | refuse => cases about
  | fail exited => cases about
  | halt ends => cases about

theorem pid?_before_follow (stands : session.Stands phase) (known : session.world.Knows pid)
    (moves : List Move) (standing : (session.follow moves).Stands next)
    (about : next.pid? = some pid) : phase.pid? = some pid := by
  let holds (later : Session) := later.world.Knows pid ∧
    ∀ next, later.Stands next → next.pid? = some pid → phase.pid? = some pid
  have begins : holds session := ⟨known, fun next standing about => stands.unique standing ▸ about⟩
  have kept : holds (session.follow moves) := by
    refine (follow_keep holds stands begins (fun stands held step => ⟨?_, ?_⟩) moves).1
    · exact knows_of_step stands step held.1
    · intro next standing about
      exact held.2 _ stands (pid?_before_step stands step held.1 standing about)
  exact kept.2 next standing about

/-- While no call is made and none begins to ask for the daemon to run, only an attempt that was
unfinished before is so, and only such an attempt spawns a daemon. -/
theorem attempting_of_silent (registered : session.IsRegistered) (stands : session.Stands phase)
    (startless : session.IsStartless) {moves : List Move}
    (alone : ∀ move ∈ moves, move.isCall = false) :
    ∀ badge ∈ (session.follow moves).books.badges, badge.isWorker →
      badge ∈ session.books.badges ∨ session.isAttempting badge.spawner := by
  let holds (later : Session) := later.IsRegistered ∧ later.IsStartless ∧
    (∀ attempt, later.isAttempting attempt → session.isAttempting attempt) ∧
      ∀ badge ∈ later.books.badges, badge.isWorker →
        badge ∈ session.books.badges ∨ session.isAttempting badge.spawner
  have kept : holds (session.follow moves) := by
    refine keep_of_silent holds stands
      ⟨registered, startless, fun _ attempting => attempting, fun _ member _ => .inl member⟩
      (fun {before phase move} stands held silent => ?_) alone
    obtain ⟨registered, startless, attempts, spawned⟩ := held
    refine ⟨registered.move stands move, startless.move stands silent, ?_, ?_⟩
    · intro attempt attempting
      exact attempts attempt (attempting_of_unheard stands
        (fun id stage _ found => startless id stage found) attempting)
    · intro badge member worker
      by_cases old : badge ∈ before.books.badges
      · exact spawned badge old worker
      · obtain ⟨-, begins⟩ := spawner_of_move registered stands move member worker old
        exact .inr (attempts _ (isAttempting_iff.mpr ⟨.attempt, begins, rfl⟩))
  exact kept.2.2.2

/-- The daemon rests, or runs until a last call is heard that asks for it to stop, unless that is
cancelled. -/
def IsLeaving (session : Session) (id : TaskId) : Prop :=
  session.Stands .resting ∨ (∃ pid, session.RunsAs pid) ∧ session.stage? id = some .stop ∨
    session.stage? id = some (.ended .cancelled)

theorem IsLeaving.move {move : Move} (leaving : session.IsLeaving id)
    (minds : session.Minds) (awaits : session.Awaits) (stands : session.Stands phase)
    (startless : session.IsStartless) : (session.move move).IsLeaving id := by
  rcases leaving with rests | ⟨⟨pid, runs⟩, asks⟩ | cancelled
  · exact .inl (keep_of_move (fun _ => True) rests trivial (fun _ _ _ _ => trivial)
      startless.not_hearsStart).2
  · by_cases moves : session.mover move = some id
    · cases flagged : session.isFlagged id with
      | false =>
          have ends := ends_of_move stands minds awaits ⟨asks, flagged, moves⟩ runs
          exact .inl ends.halting.resting
      | true =>
          obtain ⟨ready, same⟩ := yield_eq moves asks rfl flagged
          rw [same]
          exact .inr (.inr (stage?_moveTo_self (lt_of_stage? asks)))
    · have still := (stage?_of_move stands moves (lt_of_stage? asks)).trans asks
      have halts : (session.move move).Stands (.running pid) ∨
          (session.move move).Stands .resting := by
        refine keep_of_unheard Stage.isOrder_of_isStart
          (fun later => later.Stands (.running pid) ∨ later.Stands .resting) stands
          (.inl (runs.stands stands)) (fun _ held silent step => ?_)
          fun id stage _ found => startless id stage found
        rcases held with running | rests
        · obtain ⟨next, leads, passage⟩ := running.step step
          cases passage with
          | stay => exact .inl leads
          | halt ends => exact .inr leads
        · exact .inr (resting_of_step rests step fun id enters moves asks =>
            nomatch silent id _ moves asks)
      rcases halts with running | rests
      · exact .inr (.inl ⟨⟨pid, running.runsAs⟩, still⟩)
      · exact .inl rests
  · exact .inr (.inr (ended_of_follow stands cancelled [move]))

end Exit

section Scope

variable {settings : Settings} {tree : Tree} {pid : Pid} {phase : Phase} {attempt : TaskId}
  {before body after moves : List Move}

/-- While no call is made, the daemon of a phase is one that the attempt has spawned that was
unfinished before. -/
theorem owns_of_silent (startless : ((fresh settings tree).follow before).IsStartless)
    (attempting : ((fresh settings tree).follow before).isAttempting attempt)
    (alone : ∀ move ∈ after, move.isCall = false)
    (stands : ((fresh settings tree).follow (before ++ after)).Stands phase)
    (about : phase.pid? = some pid) :
    ((fresh settings tree).follow (before ++ after)).books.Owns attempt pid := by
  have start := fresh_stands settings tree
  obtain ⟨first, outset⟩ := start.follow before
  have registered := (fresh_isRegistered settings tree).follow start before
  obtain ⟨badge, member, rfl, worker⟩ := owned_of_follow stands about
  suffices own : badge.spawner = attempt from ⟨badge, member, rfl, own⟩
  rw [follow_append] at member stands
  rcases attempting_of_silent registered outset startless alone badge member worker with
    old | began
  · obtain ⟨-, sponsors⟩ := sponsors_of_follow settings tree before old worker
    obtain ⟨process, present, rfl⟩ := List.mem_map.mp old
    have known : ((fresh settings tree).follow before).world.Knows process.badge.pid :=
      Option.isSome_iff_exists.mpr ⟨process, outset.numbered.process? present⟩
    have current := pid?_before_follow outset known after stands about
    obtain ⟨found, unfinished⟩ := phase?_of_isAttempting attempting
    have tries := outset.attempt_eq unfinished
    rcases sponsors first outset current with other | ⟨rfl, -⟩
    · exact Option.some.inj (other.symm.trans tries)
    · cases tries
  · exact attempting_unique outset attempting began

/-- A scope that is left with a call for the daemon to stop, while no attempt is unfinished, leaves
the daemon at rest. -/
theorem rests_of_exit {id : TaskId} (startless : ((fresh settings tree).follow before).IsStartless)
    (leaving : ((fresh settings tree).follow before).IsLeaving id)
    (alone : ∀ move ∈ after, move.isCall = false)
    (returned : ((fresh settings tree).follow (before ++ after)).stage? id =
      some (.ended (.returned none))) :
    ((fresh settings tree).follow (before ++ after)).Stands .resting := by
  obtain ⟨first, outset⟩ := (fresh_stands settings tree).follow before
  obtain ⟨minds, awaits⟩ := minds_of_follow settings tree before
  let holds (later : Session) := later.IsLeaving id ∧ later.IsStartless ∧ later.Minds ∧ later.Awaits
  have kept : holds (((fresh settings tree).follow before).follow after) := by
    refine keep_of_silent holds outset ⟨leaving, startless, minds, awaits⟩
      (fun {before phase move} stands held silent => ?_) alone
    obtain ⟨leaving, startless, minds, awaits⟩ := held
    obtain ⟨still, remains⟩ := (Steps.keep (fun later => later.Minds ∧ later.Awaits) stands
      ⟨minds, awaits⟩ (fun standing held step => ⟨held.1.step standing step, held.2.step step⟩)
      (move_steps stands.live move)).1
    exact ⟨leaving.move minds awaits stands startless, startless.move stands silent, still, remains⟩
  rw [← follow_append] at kept
  rcases kept.1 with rests | ⟨-, asks⟩ | cancelled
  · exact rests
  · cases stage?_inj returned asks
  · cases stage?_inj returned cancelled

theorem startless_of_exit (idle : ((fresh settings tree).follow body).IsIdle) :
    ((fresh settings tree).follow (body ++ [.event .stop])).IsStartless := by
  intro id stage here
  rw [follow_concat] at here
  rcases stage?_begin here with old | ⟨-, rfl⟩
  · by_contra start
    have caller := Stage.isCaller_of_isStart stage (by simpa using start)
    cases (idle id stage old).symm.trans caller
  · rfl

/-- The daemon of a scope that was left was spawned for a call that was cancelled. -/
theorem cut_of_exited (idle : ((fresh settings tree).follow body).IsIdle)
    (alone : ∀ move ∈ after, move.isCall = false)
    (returned : ((fresh settings tree).follow (body ++ [.event .stop] ++ after)).stage?
      ((fresh settings tree).follow body).tasks.length = some (.ended (.returned none)))
    (stands : ((fresh settings tree).follow (body ++ [.event .stop] ++ after)).Stands phase)
    (about : phase.pid? = some pid) :
    (fresh settings tree).IsCutOff (body ++ [.event .stop] ++ after) pid := by
  obtain ⟨first, outset⟩ := (fresh_stands settings tree).follow body
  have startless := startless_of_exit idle
  by_cases busy : ∃ attempt, ((fresh settings tree).follow body).isAttempting attempt
  · obtain ⟨attempt, attempting⟩ := busy
    obtain ⟨enters, cuts⟩ := cut_of_attempting idle attempting
    have still : ((fresh settings tree).follow (body ++ [.event .stop])).isAttempting attempt := by
      obtain ⟨stage, found, kind⟩ := isAttempting_iff.mp attempting
      rw [follow_concat]
      have silent : ((fresh settings tree).follow body).mover (.event .stop) ≠ some attempt :=
        fun same => nomatch (same : none = some attempt)
      exact isAttempting_iff.mpr
        ⟨stage, (stage?_of_move outset silent (lt_of_stage? found)).trans found, kind⟩
    have owns := owns_of_silent startless still alone stands about
    exact .inl ⟨attempt, enters, owns, (cuts.append _).append _⟩
  · have leaving : ((fresh settings tree).follow (body ++ [.event .stop])).IsLeaving
        ((fresh settings tree).follow body).tasks.length := by
      rw [follow_concat]
      by_cases running : ((fresh settings tree).follow body).handle.status = .running
      · obtain ⟨pid, -, current⟩ := outset.running running
        exact .inr (.inl ⟨⟨pid, running, current⟩, stage?_begin_self⟩)
      · have rests := outset.resting_of_idle running fun attempt attempting =>
          busy ⟨attempt, attempting⟩
        exact .inl ((rests.begin rfl).quiet (Quiet.wake _))
    cases stands.unique (rests_of_exit startless leaving alone returned)
    cases about

/-- A scope that was left leaves a daemon alive, or running, only where a caller was cancelled that
waited for the attempt by which it was spawned, or for its end. -/
theorem isCutOff_of_isLeft (settings : Settings) (tree : Tree) {moves : List Move}
    (left : (fresh settings tree).IsLeft moves) :
    (∀ pid, ((fresh settings tree).follow moves).world.HasLiveDaemon pid →
        (fresh settings tree).IsCutOff moves pid) ∧
      (((fresh settings tree).follow moves).handle.status = .running →
        ∃ pid, ((fresh settings tree).follow moves).RunsAs pid ∧
          (fresh settings tree).IsCutOff moves pid) := by
  have start := fresh_stands settings tree
  obtain ⟨phase, stands⟩ := start.follow moves
  have none := fresh_not_hasLiveDaemon settings tree
  obtain ⟨idle, own⟩ : ((fresh settings tree).follow moves).IsIdle ∧
      ∀ pid, phase.pid? = some pid → (fresh settings tree).IsCutOff moves pid := by
    cases left with
    | unentered alone ended own =>
        exact ⟨(onlyCaller_of_entry alone (List.append_nil _).symm).isIdle ended,
          fun pid about => cut_of_unentered alone ended own stands about⟩
    | @exited body after idle alone returned =>
        rw [List.append_cons] at stands returned ⊢
        obtain ⟨first, outset⟩ := start.follow (body ++ [.event .stop])
        have only : ((fresh settings tree).follow (body ++ [.event .stop])).IsOnlyCaller
            ((fresh settings tree).follow body).tasks.length := by
          rw [follow_concat]
          exact idle.isOnlyCaller_begin .stop
        have lone := keep_of_silent (IsOnlyCaller · _) outset only
          (fun stands only silent => only.move stands silent) alone
        rw [← follow_append] at lone
        exact ⟨lone.isIdle returned,
          fun pid about => cut_of_exited idle alone returned stands about⟩
  constructor
  · intro pid live
    rcases accountsWith_of_follow start none moves phase stands pid live with about | dismissed
    · exact own pid about
    · exact .inr (cut_of_dismissed idle dismissed live.not_hasExited)
  · intro running
    obtain ⟨pid, rfl, current⟩ := stands.running running
    exact ⟨pid, ⟨running, current⟩, own pid rfl⟩

end Scope

/-- The call that enters a scope is cancelled while it waits, before its attempt has begun. The
daemon becomes ready afterwards. -/
def forsaking : List Move :=
  [.event (.start true), .turn 0, .event (.cancel 0), .turn 0, .turn 1,
    .event (.writeErrors 1001 ['R'.toUInt8]), .turn 1]

theorem isLeft_forsaking : sample.IsLeft forsaking :=
  @IsLeft.unentered sample [] _ _ (by decide) rfl nofun

theorem isCutOff_forsaking : sample.IsLeft forsaking ∧
    (sample.follow forsaking).world.HasLiveDaemon 1001 ∧ sample.IsCutOff forsaking 1001 :=
  have live : (sample.follow forsaking).world.HasLiveDaemon 1001 := ⟨_, rfl, rfl, rfl⟩
  ⟨isLeft_forsaking, live, (isCutOff_of_isLeft _ _ isLeft_forsaking).1 1001 live⟩

/-- Not every scope that was left leaves the daemon stopped. -/
theorem not_forall_quit : ¬ ∀ moves, sample.IsLeft moves →
    (∀ pid, ¬ (sample.follow moves).world.HasLiveDaemon pid) ∧
      (sample.follow moves).handle.status ≠ .running := by
  intro claim
  obtain ⟨-, halted⟩ := claim forsaking isLeft_forsaking
  exact halted rfl

end Session

end EmacsSession
