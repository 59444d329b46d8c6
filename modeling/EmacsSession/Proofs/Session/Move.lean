/-
This file defines the runs of a session in which tasks go on in any order, and shows that each move
of such a run is made of small steps.
-/

import EmacsSession.Proofs.Session.Turn

namespace EmacsSession

/-- A move of a session: something happens, or any one of the tasks that are to run goes on. -/
inductive Move where
  | event (event : Event)
  | turn (id : TaskId)

namespace Session

open Relation

/-- A task goes on, and wakes others. -/
def goOn (session : Session) (id : TaskId) : Session :=
  ({ session with ready := session.ready.erase id }.resume id).wake

/-- What a move makes of a session. -/
def move (session : Session) : Move → Session
  | .event event => session.apply event
  | .turn id => if session.ready.contains id then session.goOn id else session

/-- A run in which tasks go on in any order. -/
def follow (session : Session) (moves : List Move) : Session :=
  moves.foldl move session

/-- A run of a session that had not begun leads here. -/
def IsReachable (session : Session) : Prop :=
  ∃ settings tree moves, session = (fresh settings tree).follow moves

/-- A session for examples. The daemon is ready when it shows one letter. -/
def sample : Session :=
  fresh ⟨"d", ["emacs"], ["emacsclient"], ⟨.single, []⟩, some "R"⟩ ⟨[]⟩

/-- A caller with this number asks for the daemon to run, and returns when that is ready. -/
def sampleStart (caller : TaskId) (pid : Pid) : List Move :=
  [.event (.start false), .turn caller, .turn (caller + 1),
    .event (.writeErrors pid ['R'.toUInt8]), .turn (caller + 1), .turn caller]

/-- The next daemon goes on when it is asked to terminate. -/
def sampleIgnorance : Move :=
  .event (.plan (.spawned { termination := .ignored }))

/-- The task that goes on by a move. -/
def mover (session : Session) : Move → Option TaskId
  | .event .tick => session.ready.head?
  | .event _ => none
  | .turn id => if session.ready.contains id then some id else none

theorem follow_append (session : Session) (first second : List Move) :
    session.follow (first ++ second) = (session.follow first).follow second :=
  List.foldl_append

theorem follow_concat (session : Session) (moves : List Move) (last : Move) :
    session.follow (moves ++ [last]) = (session.follow moves).move last := by
  rw [follow_append]
  rfl

/-- A split of a run with one more move is one of the run, or the one at its last move. -/
theorem exists_split_concat {happens : List Move → Move → Prop} {moves : List Move}
    {last : Move} :
    (∃ before move after, moves ++ [last] = before ++ move :: after ∧ happens before move) ↔
      (∃ before move after, moves = before ++ move :: after ∧ happens before move) ∨
        happens moves last := by
  constructor
  · rintro ⟨before, move, after, split, occurs⟩
    rcases List.eq_nil_or_concat after with rfl | ⟨others, final, rfl⟩
    · obtain ⟨rfl, same⟩ := List.append_inj' split rfl
      cases same
      exact .inr occurs
    · have shape : moves ++ [last] = (before ++ move :: others) ++ [final] := by simp [split]
      obtain ⟨rfl, -⟩ := List.append_inj' shape rfl
      exact .inl ⟨before, move, others, rfl, occurs⟩
  · rintro (⟨before, move, after, rfl, occurs⟩ | occurs)
    · exact ⟨before, move, after ++ [last], by simp, occurs⟩
    · exact ⟨moves, last, [], rfl, occurs⟩

/-- A run of events is one of the runs in which tasks go on in any order. -/
theorem run_eq_follow (session : Session) (events : List Event) :
    session.run events = session.follow (events.map .event) := by
  rw [run, follow, List.foldl_map]
  rfl

theorem tick_eq_goOn {session : Session} {id : TaskId} {others : List TaskId}
    (first : session.ready = id :: others) : session.tick = session.goOn id := by
  rw [tick, goOn, first]
  simp

section Steps

variable {session : Session} {id : TaskId}

theorem cancelIn_steps {stage : Stage} (found : session.stage? id = some stage)
    (flagged : session.isFlagged id)
    (proceeding : Steps (some id) session (session.proceed id stage)) :
    Steps (some id) session (session.cancelIn id stage) := by
  have present := lt_of_stage? found
  cases stage with
  | awaitAttempt attempt enters => exact .single (.abandon found flagged)
  | awaitBackground tasks => exact joinBackground_steps found (.inr rfl)
  | awaitClientSpawn pid input => exact Steps.ofStage found (abandonClient_steps present rfl _)
  | awaitAnswer pid => exact Steps.ofStage found (abandonClient_steps present rfl _)
  | evaluate form input => exact Steps.ofStage found (evaluate_steps present rfl (.inr rfl))
  | awaitClientEnd pid ending => exact Steps.ofStage found (evaluate_steps present rfl (.inr rfl))
  | start enters => exact .single (.yield found rfl flagged)
  | stop => exact .single (.yield found rfl flagged)
  | awaitTermination pid => exact .single (.yield found rfl flagged)
  | relay pid diagnostics => exact .single (.yield found rfl flagged)
  | watch pid => exact .single (.yield found rfl flagged)
  | attempt => exact proceeding
  | awaitSpawn pid => exact proceeding
  | awaitReady pid readiness => exact proceeding
  | awaitCode pid => exact proceeding
  | awaitEnd pid fault => exact proceeding
  | ended ending => exact proceeding

theorem proceed_steps {stage : Stage} (found : session.stage? id = some stage)
    (live : session.handle.status = .running → session.handle.process ≠ none) :
    Steps (some id) session (session.proceed id stage) := by
  have present := lt_of_stage? found
  cases stage with
  | start enters => exact runStart_steps found
  | awaitAttempt attempt enters =>
      by_cases self : attempt = id
      · subst self
        rw [proceed, joinAttempt_self (by rw [ending?, found]; rfl), moveTo_self found]
      · exact Steps.ofStage found (joinAttempt_steps present self enters)
  | attempt => exact Steps.ofStage found (runAttempt_steps present)
  | awaitSpawn pid => exact Steps.ofStage found (attach_steps present)
  | awaitReady pid readiness => exact Steps.ofStage found (readUntilReady_steps present readiness)
  | awaitCode pid =>
      exact Steps.ofStage found
        (failWithCode_steps present (Stage.isWaking_awaitCode pid) .refl)
  | awaitEnd pid fault =>
      have ends := Steps.ofStage found (awaitEnd_steps present fault)
      rwa [moveTo_self found] at ends
  | relay pid diagnostics => exact runRelay_steps found
  | watch pid => exact runWatch_steps found
  | stop => exact runStop_steps found live
  | awaitTermination pid =>
      exact Steps.ofStage found (awaitExit_steps (by rw [hasEnded, ending?, found]; rfl) present)
  | awaitBackground tasks => exact joinBackground_steps found (.inl rfl)
  | evaluate form input => exact runEvaluate_steps found
  | awaitClientSpawn pid input =>
      exact Steps.ofStage found (attachClient_steps present rfl input)
  | awaitAnswer pid => exact takeAnswer_steps found
  | awaitClientEnd pid ending =>
      rw [proceed]
      split
      next => exact Steps.ofStage found (evaluate_steps present rfl (.inr rfl))
      next => exact .refl
  | ended ending => exact .refl

theorem resume_of_stage {stage : Stage} (found : session.stage? id = some stage) :
    session.resume id =
      if session.isFlagged id then session.cancelIn id stage else session.proceed id stage := by
  obtain ⟨task, present, same⟩ := Option.map_eq_some_iff.mp found
  simp only [resume, isFlagged, present, same, Option.any_some]

theorem resume_of_absent (absent : session.stage? id = none) : session.resume id = session := by
  have missing : session.tasks[id]? = none := Option.map_eq_none_iff.mp absent
  rw [resume, missing]

theorem resume_steps (live : session.handle.status = .running → session.handle.process ≠ none) :
    Steps (some id) session (session.resume id) := by
  cases found : session.stage? id with
  | none => rw [resume_of_absent found]
  | some stage =>
      rw [resume_of_stage found]
      split
      next flagged => exact cancelIn_steps found flagged (proceed_steps found live)
      next => exact proceed_steps found live

theorem goOn_steps (live : session.handle.status = .running → session.handle.process ≠ none) :
    Steps (some id) session (session.goOn id) := by
  have queue : Quiet session { session with ready := session.ready.erase id } :=
    ⟨_, _, _, _, _, rfl, List.suffix_refl _, rfl⟩
  exact ((queue.steps _).trans (resume_steps live)).trans ((Quiet.wake _).steps _)

theorem quiet_discardDirectory (session : Session) : Quiet session session.discardDirectory.2 := by
  rw [discardDirectory]
  split
  next => exact .refl session
  next =>
    split
    next => exact .refl session
    next directory _ =>
      generalize session.world.disk.discardDirectory directory = discarded
      obtain ⟨result, disk⟩ := discarded
      cases result with
      | error fault => exact ⟨_, _, _, _, _, rfl, List.suffix_refl _, rfl⟩
      | ok nothing => exact ⟨_, _, _, _, _, rfl, List.suffix_cons _ _, rfl⟩

theorem receive_steps {event : Event} (happens : session.mover (.event event) = none) :
    Steps none session (session.receive event) := by
  cases event with
  | start enters => exact .single (.call (.start enters) rfl)
  | stop => exact .single (.call .stop rfl)
  | evaluate form input => exact .single (.call (.evaluate form input) rfl)
  | cancel id =>
      rw [receive]
      split
      next caller =>
        cases found : session.stage? id with
        | none => simp [found] at caller
        | some stage => exact .single (.cancel found (by simpa [found] using caller))
      next => exact .refl
  | discardDirectory => exact (quiet_discardDirectory session).steps _
  | writeErrors pid octets =>
      exact .single (.develop pid _ (Process.writeErrors_continues octets))
  | closeErrors pid =>
      exact .single (.develop pid _ Process.closeErrors_continues)
  | writeOutput pid octets =>
      exact .single (.develop pid _ fun _ => .of_errors rfl rfl rfl rfl)
  | closeOutput pid =>
      exact .single (.develop pid _ fun _ => .of_errors rfl rfl rfl rfl)
  | breakErrors pid error =>
      exact .single (.develop pid _ (Process.breakErrors_continues error))
  | breakOutput pid error =>
      exact .single (.develop pid _ fun _ => .of_errors rfl rfl rfl rfl)
  | connect pid =>
      exact .single (.develop pid _ fun _ => .of_errors rfl rfl rfl rfl)
  | exit pid code => exact .single (.develop pid _ (Process.exit_continues code))
  | plan plan => exact .single (.quiet ⟨_, _, _, _, _, rfl, List.suffix_refl _, rfl⟩)
  | planDisk refusal => exact .single (.quiet ⟨_, _, _, _, _, rfl, List.suffix_refl _, rfl⟩)
  | tick =>
      have idle : session.ready = [] := List.head?_eq_none_iff.mp happens
      rw [receive, tick, idle]

/-- A move in which a task goes on is the turn of that task. -/
theorem move_of_mover {move : Move} (moves : session.mover move = some id) :
    session.move move = session.goOn id ∨ session.move move = (session.goOn id).wake := by
  cases move with
  | turn other =>
      rw [mover] at moves
      split at moves
      next waits =>
        cases moves
        exact .inl (if_pos waits)
      next => cases moves
  | event event =>
      cases event with
      | tick =>
          obtain ⟨others, first⟩ := List.head?_eq_some_iff.mp moves
          exact .inr (by rw [Session.move, apply, receive, tick_eq_goOn first])
      | _ => cases moves

/-- A move is made of small steps of the task that goes on, or of nobody. -/
theorem move_steps (live : session.handle.status = .running → session.handle.process ≠ none)
    (move : Move) : Steps (session.mover move) session (session.move move) := by
  cases moves : session.mover move with
  | some id =>
      rcases move_of_mover moves with turn | turn
      · exact turn ▸ goOn_steps live
      · exact turn ▸ (goOn_steps live).trans ((Quiet.wake _).steps _)
  | none =>
      cases move with
      | event event => exact (receive_steps moves).trans ((Quiet.wake _).steps _)
      | turn id =>
          rw [mover] at moves
          split at moves
          next => cases moves
          next idle =>
            rw [Session.move, if_neg idle]

end Steps

end Session

end EmacsSession
