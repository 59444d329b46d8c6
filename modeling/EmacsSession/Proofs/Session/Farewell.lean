/-
This file shows that a call that evaluates a form does not leave its client behind.
-/

import Mathlib.Data.List.Induction
import EmacsSession.Proofs.Session.EvaluateCall

namespace EmacsSession.Session

/-- A call that waits for the end of its client has killed it. When the call has ended, the client
has ended too, or it was killed and the wait for its end was cut short. -/
structure LetsGo (session : Session) (id : TaskId) (pid : Pid) (isCut : Prop) : Prop where
  killed : ∀ ending, session.stage? id = some (.awaitClientEnd pid ending) →
    .killed pid ∈ session.deeds
  ended : session.hasEnded id → session.hasExited pid ∨ .killed pid ∈ session.deeds ∧ isCut

/-- A cancellation reaches a call while it waits for the end of its client. -/
structure CutsShort (session : Session) (id : TaskId) (pid : Pid) (move : Move) : Prop where
  waits : ∃ ending, session.stage? id = some (.awaitClientEnd pid ending)
  flagged : session.isFlagged id
  moves : session.mover move = some id

/-- The wait for the end of a client was cut short in the course of a call. -/
def IsCutShort (start : Session) (before : List Move) (form input : Value) (since : List Move)
    (id : TaskId) (pid : Pid) : Prop :=
  ∃ earlier move later, since = earlier ++ move :: later ∧
    (start.evaluating before form input earlier).CutsShort id pid move

/-- How a call that evaluates a form leaves a client that it spawned. -/
structure IsLetGo (start : Session) (before : List Move) (form input : Value) (since : List Move)
    (id : TaskId) (pid : Pid) : Prop where
  /-- When the call has ended, the client has ended or was killed. -/
  safe : (start.evaluating before form input since).hasEnded id →
    (start.evaluating before form input since).hasExited pid ∨
      .killed pid ∈ (start.evaluating before form input since).deeds
  /-- It has ended unless the wait for its end was cut short. -/
  gone : (start.evaluating before form input since).hasEnded id →
    ¬ start.IsCutShort before form input since id pid →
      (start.evaluating before form input since).hasExited pid
  /-- The wait is over when the client has ended. -/
  notices : ∀ earlier move later ending, since = earlier ++ move :: later →
    (start.evaluating before form input earlier).stage? id = some (.awaitClientEnd pid ending) →
    (start.evaluating before form input earlier).mover move = some id →
    (start.evaluating before form input earlier).hasExited pid →
      (start.evaluating before form input (earlier ++ [move])).hasEnded id

section Turns

variable {session : Session} {phase : Phase} {id : TaskId} {pid : Pid} {isCut : Prop}
  {form input : Value} {settings : Settings} {move : Move}

theorem hasEnded_of_stage? {stage : Stage} (found : session.stage? id = some stage) :
    session.hasEnded id = stage.ending?.isSome := by
  rw [hasEnded, ending?, found]
  rfl

/-- A call that goes on with its client has nothing to answer for. -/
theorem LetsGo.of_going {stage : Stage} (found : session.stage? id = some stage)
    (going : stage.ending? = none) (stays : ∀ ending, stage ≠ .awaitClientEnd pid ending) :
    session.LetsGo id pid isCut := by
  constructor
  · intro ending waits
    exact absurd (stage?_inj found waits) (stays ending)
  · intro ended
    rw [hasEnded_of_stage? found, going] at ended
    cases ended

theorem LetsGo.of_exited {ending : Ending} (found : session.stage? id = some (.ended ending))
    (exited : session.hasExited pid) : session.LetsGo id pid isCut := by
  refine ⟨fun other waits => ?_, fun _ => .inl exited⟩
  cases stage?_inj found waits

theorem LetsGo.of_killed {ending : Ending}
    (found : session.stage? id = some (.awaitClientEnd pid ending))
    (killed : .killed pid ∈ session.deeds) : session.LetsGo id pid isCut := by
  refine ⟨fun _ _ => killed, fun ended => ?_⟩
  rw [hasEnded_of_stage? found] at ended
  cases ended

/-- What others do keeps what a call has done for its client. -/
theorem LetsGo.keep {after : Session} {other : Prop} (letsGo : session.LetsGo id pid isCut)
    (stages : after.stage? id = session.stage? id) (deeds : session.deeds ⊆ after.deeds)
    (exited : session.hasExited pid → after.hasExited pid) (implies : isCut → other) :
    after.LetsGo id pid other := by
  constructor
  · intro ending waits
    exact deeds (letsGo.killed ending (stages.symm.trans waits))
  · intro ended
    have before : session.hasEnded id := by
      rw [hasEnded, ending?, ← stages]
      exact ended
    rcases letsGo.ended before with gone | ⟨killed, cut⟩
    · exact .inl (exited gone)
    · exact .inr ⟨deeds killed, implies cut⟩

theorem LetsGo.queue (letsGo : session.LetsGo id pid isCut) (ready : List TaskId) :
    ({ session with ready := ready } : Session).LetsGo id pid isCut :=
  letsGo.keep rfl (fun _ done => done) (fun exited => exited) fun cut => cut

/-- A client that is given up has ended at once, or is killed and waited for. -/
theorem letsGo_abandonClient (present : id < session.tasks.length) (ending : Ending) :
    (session.abandonClient id pid ending).LetsGo id pid isCut := by
  rw [abandonClient]
  by_cases exited : session.hasExited pid
  · simp only [exited, if_true]
    exact .of_exited (stage?_moveTo_self present) exited
  · simp only [exited, if_false, Bool.false_eq_true]
    split
    next gone => exact .of_exited (stage?_moveTo_self present) gone
    next =>
      refine @LetsGo.of_killed _ id pid isCut ending ?_ (List.mem_cons_self ..)
      rw [stage?_alterTask fun _ => rfl]
      exact stage?_moveTo_self present

theorem letsGo_attachClient (present : id < session.tasks.length) (input : Value) :
    (session.attachClient id pid input).LetsGo id pid isCut := by
  cases attachClient_attaches session id pid input with
  | waits runs => exact runs ▸ .of_going (stage?_moveTo_self present) rfl (by simp)
  | gives read runs => exact runs ▸ .of_going (stage?_moveTo_self present) rfl (by simp)
  | abandons unreadable runs => exact runs ▸ letsGo_abandonClient present _

theorem letsGo_takeAnswer (waits : session.stage? id = some (.awaitAnswer pid)) :
    (session.takeAnswer id pid).LetsGo id pid isCut := by
  have present := lt_of_stage? waits
  have still : session.LetsGo id pid isCut := .of_going waits rfl (by simp)
  rw [takeAnswer]
  split
  next => exact still
  next client found =>
    split
    next error _ => exact letsGo_abandonClient present _
    next =>
      split
      next complete =>
        have exited : session.hasExited pid := by
          simp only [Process.isComplete, Bool.and_eq_true] at complete
          rw [hasExited, World.hasExited, World.exitCode?, found]
          exact complete.1.1
        rw [answer]
        split
        next => exact .of_exited (stage?_moveTo_self present) exited
        next => exact .of_exited (stage?_moveTo_self present) exited
      next => exact still

/-- The only process of a call is the one that it employs. -/
theorem eq_of_employs {books : Books} {client : Pid} {given : List (Option (List UInt8))}
    (employs : books.Employs settings id form input client given) (owns : books.Owns id pid) :
    pid = client := by
  obtain ⟨code, arguments, -, -, only, -⟩ := employs
  obtain ⟨badge, member, same⟩ := Books.owns_iff.mp owns
  rw [only, List.mem_singleton] at member
  exact same ▸ member ▸ rfl

theorem not_owns_of_none {books : Books} (none : books.spawnedBy id = []) :
    ¬ books.Owns id pid := by
  rw [Books.owns_iff, none]
  simp

/-- A call that is heard lets go of the client that it spawns. -/
theorem letsGo_of_hears (hears : session.HearsEvaluation id form input move)
    (none : session.books.spawnedBy id = []) (owns : (session.move move).books.Owns id pid) :
    (session.move move).LetsGo id pid isCut := by
  have present := lt_of_stage? hears.asks
  obtain ⟨ready, same⟩ := turn_eq hears.moves hears.asks hears.wanted
  let queue := { session with ready := session.ready.erase id }
  have mine : (queue.runEvaluate id form input).books.Owns id pid := by
    rw [same] at owns
    exact owns
  have idle : queue.books.spawnedBy id = [] := none
  rw [same]
  refine LetsGo.queue ?_ ready
  change (queue.runEvaluate id form input).LetsGo id pid isCut
  cases runEvaluate_asks queue id form input with
  | notStarted notRunning runs =>
      rw [runs] at mine
      exact absurd mine (not_owns_of_none idle)
  | unprintable running unprintable runs =>
      rw [runs] at mine
      exact absurd mine (not_owns_of_none idle)
  | @refused code fault reported tried running printed spawns runs =>
      have declined : tried.books.spawnedBy id = [] := by
        rw [spawns.books_refused, Books.spawnedBy_enter, idle]
        rfl
      rw [runs] at mine
      exact absurd mine (not_owns_of_none declined)
  | @hired code client tried running printed spawns runs =>
      have only : (tried.attachClient id client input).books.spawnedBy id =
          [⟨client, id, .client, clientArguments queue.handle.settings code⟩] := by
        rw [Books.spawnedBy, badges_attachClient, ← Books.spawnedBy, spawns.books_hired.2,
          Books.spawnedBy_enter, idle]
        simp
      rw [runs, Books.owns_iff, only] at mine
      obtain ⟨badge, member, rfl⟩ := mine
      cases List.mem_singleton.mp member
      rw [runs]
      exact letsGo_attachClient (spawns.tasks ▸ present) input

/-- A call that goes on with its client lets go of it, or its wait for the end of the client is cut
short. -/
theorem letsGo_resume (served : session.IsServed settings id form input)
    (owns : session.books.Owns id pid) (letsGo : session.LetsGo id pid isCut) :
    (session.resume id).LetsGo id pid
      (isCut ∨ (∃ ending, session.stage? id = some (.awaitClientEnd pid ending)) ∧
        session.isFlagged id) := by
  obtain ⟨stage, found, serves⟩ := served
  have present := lt_of_stage? found
  have stays : session.LetsGo id pid (isCut ∨
      (∃ ending, session.stage? id = some (.awaitClientEnd pid ending)) ∧ session.isFlagged id) :=
    letsGo.keep rfl (fun _ done => done) (fun exited => exited) .inl
  rw [resume_of_stage found]
  cases serves with
  | asks none => exact absurd owns (not_owns_of_none none)
  | connects client =>
      cases eq_of_employs client owns
      split
      next => exact letsGo_abandonClient present _
      next => exact letsGo_attachClient present input
  | waits read client =>
      cases eq_of_employs client owns
      split
      next => exact letsGo_abandonClient present _
      next => exact letsGo_takeAnswer found
  | @parts _ _ ending isInput client silent =>
      cases eq_of_employs client owns
      split
      next flagged =>
        refine ⟨fun other waits => ?_, fun _ => .inr ⟨letsGo.killed ending found,
          .inr ⟨⟨ending, found⟩, flagged⟩⟩⟩
        cases stage?_inj waits (stage?_moveTo_self present)
      next =>
        rw [proceed]
        split
        next exited => exact .of_exited (stage?_moveTo_self present) exited
        next => exact stays
  | declined none silent => exact absurd owns (not_owns_of_none none)
  | parted isInput client silent => split <;> exact stays
  | answered read client closed => split <;> exact stays

/-- A move keeps what a call owes to its client, unless it cuts the wait for the client short. -/
theorem letsGo_of_move (stands : session.Stands phase) (registered : session.IsRegistered)
    (served : session.IsServed settings id form input)
    (letsGo : session.books.Owns id pid → session.LetsGo id pid isCut)
    (owns : (session.move move).books.Owns id pid) :
    (session.move move).LetsGo id pid (isCut ∨ session.CutsShort id pid move) := by
  by_cases same : (session.move move).books.spawnedBy id = session.books.spawnedBy id
  · have owned : session.books.Owns id pid := by
      rw [Books.owns_iff, ← same, ← Books.owns_iff]
      exact owns
    by_cases moves : session.mover move = some id
    · obtain ⟨ready, equal⟩ := move_eq moves
      let queue := { session with ready := session.ready.erase id }
      have waiting : queue.IsServed settings id form input := served
      have resumed := letsGo_resume waiting owned ((letsGo owned).queue _)
      rw [equal]
      refine (resumed.queue ready).keep rfl (fun _ done => done) (fun exited => exited) ?_
      exact Or.imp_right fun ⟨waits, flagged⟩ => ⟨waits, flagged, moves⟩
    · obtain ⟨stage, found, -⟩ := served
      exact (letsGo owned).keep (stage?_of_move stands moves (lt_of_stage? found))
        (deeds_of_move stands move).subset (fun exited => hasExited_of_move stands exited move) .inl
  · have moves : session.mover move = some id := by
      by_contra other
      exact same (spawnedBy_of_move registered other)
    have hears := hears_of_spawn moves served same
    obtain ⟨stage, found, serves⟩ := served
    cases stage?_inj found hears.asks
    cases serves with
    | asks none => exact letsGo_of_hears hears none owns

/-- The wait for the end of a client is over at the next turn after that. -/
theorem hasEnded_of_exited {ending : Ending}
    (waits : session.stage? id = some (.awaitClientEnd pid ending))
    (moves : session.mover move = some id) (exited : session.hasExited pid) :
    (session.move move).hasEnded id := by
  have present := lt_of_stage? waits
  obtain ⟨ready, same⟩ := move_eq moves
  let queue := { session with ready := session.ready.erase id }
  have standing : queue.stage? id = some (.awaitClientEnd pid ending) := waits
  have gone : queue.hasExited pid := exited
  have ends : ∃ outcome, queue.resume id = queue.finish id outcome := by
    rw [resume_of_stage standing]
    split
    next => exact ⟨.cancelled, rfl⟩
    next => exact ⟨ending, by rw [proceed, if_pos gone]⟩
  obtain ⟨outcome, ends⟩ := ends
  have finished : (queue.finish id outcome).stage? id = some (.ended outcome) :=
    stage?_moveTo_self present
  rw [same, ends]
  exact hasEnded_iff.mpr ⟨outcome, finished⟩

end Turns

section Runs

variable {start : Session} {before since : List Move} {form input : Value} {id : TaskId}
  {pid : Pid}

/-- A call is served in its course as it was when it was made. -/
theorem served_of_evaluating (settings : Settings) (tree : Tree) (before since : List Move)
    (form input : Value) :
    ((fresh settings tree).evaluating before form input since).IsServed settings
      ((fresh settings tree).follow before).tasks.length form input := by
  have stands := fresh_stands settings tree
  have registered := fresh_isRegistered settings tree
  obtain ⟨phase, there⟩ := stands.follow before
  obtain ⟨next, called⟩ := there.move (.event (.evaluate form input))
  have known := registered.follow stands before
  have same : ((fresh settings tree).follow before).handle.settings = settings :=
    settings_of_follow stands before
  have calls := isServed_of_call known form input
  rw [same] at calls
  rw [evaluating, follow_append]
  exact calls.follow (known.move there _) called ((settings_of_move there _).trans same) since

/-- In its course a call lets go of its client, unless its wait for the client is cut short. -/
theorem letsGo_of_evaluating (settings : Settings) (tree : Tree)
    (owns : ((fresh settings tree).evaluating before form input since).books.Owns
      ((fresh settings tree).follow before).tasks.length pid) :
    ((fresh settings tree).evaluating before form input since).LetsGo
      ((fresh settings tree).follow before).tasks.length pid
      ((fresh settings tree).IsCutShort before form input since
        ((fresh settings tree).follow before).tasks.length pid) := by
  induction since using List.reverseRecOn with
  | nil =>
      obtain ⟨stage, found, serves⟩ := served_of_evaluating settings tree before [] form input
      have asks : ((fresh settings tree).evaluating before form input []).stage?
          ((fresh settings tree).follow before).tasks.length = some (.evaluate form input) := by
        rw [evaluating, follow_concat]
        exact stage?_begin_self
      cases stage?_inj found asks
      cases serves with
      | asks none => exact absurd owns (not_owns_of_none none)
  | append_singleton since move inductionHypothesis =>
      obtain ⟨phase, stands⟩ := (fresh_stands settings tree).follow
        (before ++ .event (.evaluate form input) :: since)
      have registered := (fresh_isRegistered settings tree).follow (fresh_stands settings tree)
        (before ++ .event (.evaluate form input) :: since)
      have served := served_of_evaluating settings tree before since form input
      rw [evaluating_concat] at owns ⊢
      have letsGo := letsGo_of_move stands registered served inductionHypothesis owns
      exact letsGo.keep rfl (fun _ done => done) (fun exited => exited) exists_split_concat.mpr

end Runs

/-- A client that a call spawned has ended or was killed when the call has ended, however that
ended. -/
theorem client_isLetGo (settings : Settings) (tree : Tree) (before since : List Move)
    (form input : Value) (pid : Pid)
    (owns : ((fresh settings tree).evaluating before form input since).books.Owns
      ((fresh settings tree).follow before).tasks.length pid) :
    (fresh settings tree).IsLetGo before form input since
      ((fresh settings tree).follow before).tasks.length pid := by
  have letsGo := letsGo_of_evaluating settings tree owns
  constructor
  · intro ended
    exact (letsGo.ended ended).imp_right And.left
  · intro ended whole
    exact (letsGo.ended ended).resolve_right fun killed => whole killed.2
  · intro earlier move later ending _ waits moves exited
    rw [evaluating_concat]
    exact hasEnded_of_exited waits moves exited

/-- The daemon is ready, and the next client does not end at once when it is killed. -/
def sampleHanging : List Move :=
  sampleStart 0 1001 ++ [.event (.plan (.spawned { diesAtOnce := false }))]

/-- A call is cancelled while its client hangs, and again while it waits for the end of the
client. -/
def sampleImpatience : List Move :=
  [.turn 4, .event (.cancel 4), .turn 4, .event (.cancel 4), .turn 4]

/-- A call that is cancelled twice has killed its client and ends before that does. -/
theorem isLetGo_impatience :
    (sample.evaluating sampleHanging .nil .absent sampleImpatience).books.Owns 4 1002 ∧
      (sample.evaluating sampleHanging .nil .absent sampleImpatience).hasEnded 4 = true ∧
      (sample.evaluating sampleHanging .nil .absent sampleImpatience).hasExited 1002 = false ∧
      Deed.killed 1002 ∈
        (sample.evaluating sampleHanging .nil .absent sampleImpatience).deeds := by
  have owns : (sample.evaluating sampleHanging .nil .absent sampleImpatience).books.Owns 4 1002 :=
    ⟨⟨1002, 4, .client, ["emacsclient", "--socket-name=d", "--eval", "nil"]⟩, by
      decide +kernel, rfl, rfl⟩
  have alive :
      (sample.evaluating sampleHanging .nil .absent sampleImpatience).hasExited 1002 = false := rfl
  have letGo : sample.IsLetGo sampleHanging .nil .absent sampleImpatience 4 1002 :=
    client_isLetGo _ _ sampleHanging sampleImpatience .nil .absent 1002 owns
  exact ⟨owns, rfl, alive, (letGo.safe rfl).resolve_left (by simp [alive])⟩

end EmacsSession.Session
