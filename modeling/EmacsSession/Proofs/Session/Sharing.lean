/-
This file shows that calls which overlap share one attempt to start the daemon, and its outcome.
-/

import EmacsSession.Proofs.Session.Course
import EmacsSession.Proofs.Session.EvaluateCall
import EmacsSession.Proofs.Session.Quiescence

namespace EmacsSession

/-- The process is a daemon. -/
def Badge.isWorker (badge : Badge) : Bool :=
  match badge.role with
  | .daemon _ => true
  | .client => false

theorem Stage.Proceeds.ne_attempt {stage later : Stage} (proceeds : stage.Proceeds later) :
    later ≠ .attempt := by
  rintro rfl
  cases proceeds with
  | evaluate evaluation still => cases still

/-- The number of daemons that were spawned. -/
def World.workers (world : World) : Nat :=
  world.processes.countP Process.isDaemon

namespace Books

/-- The daemons that a task spawned. -/
def workersOf (books : Books) (id : TaskId) : List Badge :=
  (books.spawnedBy id).filter Badge.isWorker

/-- What a task writes into the books adds processes of its own. -/
theorem Entries.badges {id : TaskId} {books after : Books} (entries : Entries id books after) :
    ∃ more, after.badges = books.badges ++ more ∧ ∀ badge ∈ more, badge.spawner = id := by
  induction entries with
  | refl => exact ⟨[], (List.append_nil _).symm, nofun⟩
  | tail _ entry inductionHypothesis =>
      obtain ⟨more, badges, own⟩ := inductionHypothesis
      cases entry with
      | decline arguments input output errors => exact ⟨more, by simp [enter, badges], own⟩
      | spawn badge next mine arguments input output errors =>
          refine ⟨more ++ [badge], by simp [enter, badges], fun other member => ?_⟩
          rcases List.mem_append.mp member with old | new
          · exact own other old
          · cases List.mem_singleton.mp new
            exact mine
      | give owns octets => exact ⟨more, badges, own⟩

end Books

namespace Session

/-- How a caller fares that waits for an attempt: it waits as long as that is unfinished, is to run
when that has ended, and ends as the attempt did when it runs. -/
inductive Fares (session : Session) (id attempt : TaskId) (enters : Bool) : Prop
  | waits (waiting : session.stage? id = some (.awaitAttempt attempt enters))
      (unfinished : session.isAttempting attempt)
  | learns {ending outcome : Ending}
      (waiting : session.stage? id = some (.awaitAttempt attempt enters))
      (ended : session.ending? attempt = some ending) (own : ending ≠ .cancelled)
      (queued : id ∈ session.ready) (passes : ending.Passes outcome)
      (next : (session.move (.turn id)).ending? id = some outcome)
  | ends {ending outcome : Ending} (ended : session.ending? attempt = some ending)
      (own : ending ≠ .cancelled) (passes : ending.Passes outcome)
      (finished : session.ending? id = some outcome)

/-- Calls that overlap share one attempt to start the daemon. -/
structure IsShared (session : Session) : Prop where
  /-- While an attempt is unfinished no other one begins. -/
  alone : ∀ move attempt other, session.isAttempting attempt →
    (session.move move).isAttempting other → other = attempt
  /-- A caller that is heard while an attempt is unfinished waits for it. -/
  joined : ∀ id move attempt, session.isAttempting attempt → session.HearsStart id move →
    (∃ enters, (session.move move).stage? id = some (.awaitAttempt attempt enters)) ∧
      (session.move move).tasks.length = session.tasks.length
  /-- Daemons are spawned by attempts that begin. -/
  spawns : ∀ move, ∀ badge ∈ (session.move move).books.badges, badge.isWorker →
    badge ∉ session.books.badges →
      session.mover move = some badge.spawner ∧ session.stage? badge.spawner = some .attempt
  /-- An attempt spawns at most one daemon. -/
  once : ∀ id, (session.books.workersOf id).length ≤ 1
  /-- A caller that waits for an attempt and is not cancelled ends as the attempt does, whatever
  else happens. -/
  fares : ∀ id attempt enters moves, session.stage? id = some (.awaitAttempt attempt enters) →
    session.isAttempting attempt → session.isFlagged id = false →
      .event (.cancel id) ∉ moves → (session.follow moves).Fares id attempt enters

section Workers

variable {session after : Session} {phase : Phase} {id : TaskId}

theorem workers_alter (world : World) (pid : Pid) {change : Process → Process}
    (lasts : ∀ process : Process, process.Lasts (change process)) :
    (world.alter pid change).workers = world.workers := by
  rw [World.workers, World.alter, List.countP_map,
    World.view_comp_alter fun process => (lasts process).isDaemon, World.workers]

theorem workers_enlist (world : World) (process : Process) :
    (world.enlist process).workers = world.workers + if process.isDaemon then 1 else 0 := by
  rw [World.workers, World.enlist, List.countP_append, List.countP_singleton, World.workers]

/-- A small step adds no daemon unless an attempt begins and goes on by it. -/
theorem workers_of_step (step : Step (some id) session after) :
    after.world.workers = session.world.workers ∨
      session.stage? id = some .attempt ∧ after.stage? id ≠ some .attempt ∧
        after.world.workers = session.world.workers + 1 := by
  cases step with
  | quiet quiet =>
      obtain ⟨_, _, _, _, _, rfl, -, -⟩ := quiet
      exact .inl rfl
  | develop pid change continues =>
      exact .inl (workers_alter _ pid fun process => (continues process).toLasts)
  | spawn found starting process next daemon alive silent =>
      have present : id < (session.enlist process).tasks.length := lt_of_stage? found
      refine .inr ⟨found, ?_, ?_⟩
      · rw [stage?_moveTo_self present]
        nofun
      · rw [moveTo_world, enlist, workers_enlist, if_pos daemon]
  | spawnClient found running process next client silent =>
      left
      rw [moveTo_world, enlist, workers_enlist, client]
      rfl
  | read found taken left follows =>
      exact .inl (workers_alter _ _ (Process.read_lasts taken left))
  | relay found taken left later =>
      exact .inl (workers_alter _ _ (Process.read_lasts taken left))
  | leave found ended passes => exact .inl (congrArg World.workers (forget_world _))
  | abandon found flagged => exact .inl (congrArg World.workers (forget_world _))
  | dismiss found running current message =>
      left
      rw [moveTo_world, dismiss_world]
      split
      next => rfl
      next => exact workers_alter _ _ fun process => (Process.terminate_continues process).toLasts
  | release found exited => exact .inl (congrArg World.workers releaseBackground_world)
  | _ => exact .inl rfl

/-- A task that has gone on from the beginning of an attempt does not come back to it. -/
theorem begins_before_step (step : Step (some id) session after)
    (present : id < session.tasks.length) (begins : after.stage? id = some .attempt) :
    session.stage? id = some .attempt := by
  rcases (arrival_of_step step begins).old present with before | ⟨-, earlier, before, proceeds⟩
  · exact before
  · exact absurd rfl proceeds.ne_attempt

/-- The steps of a task add no daemon unless an attempt begins and goes on by them; then they add at
most one. -/
theorem workers_of_steps (steps : Steps (some id) session after)
    (present : id < session.tasks.length) :
    after.world.workers = session.world.workers ∧
        (after.stage? id = some .attempt → session.stage? id = some .attempt) ∨
      session.stage? id = some .attempt ∧ after.stage? id ≠ some .attempt ∧
        after.world.workers = session.world.workers + 1 := by
  induction steps with
  | refl => exact .inl ⟨rfl, fun begins => begins⟩
  | tail steps step inductionHypothesis =>
      have inside := Nat.lt_of_lt_of_le present (length_of_steps steps)
      have stays := begins_before_step step inside
      rcases inductionHypothesis with ⟨same, before⟩ | ⟨began, gone, more⟩
      · rcases workers_of_step step with still | ⟨begins, left, more⟩
        · exact .inl ⟨still.trans same, fun begins => before (stays begins)⟩
        · exact .inr ⟨before begins, left, by rw [more, same]⟩
      · refine .inr ⟨began, fun begins => gone (stays begins), ?_⟩
        exact ((workers_of_step step).resolve_right fun ⟨begins, _⟩ => gone begins).trans more

theorem workers_eq (session : Session) :
    session.books.badges.countP Badge.isWorker = session.world.workers := by
  rw [books, List.countP_map]
  rfl

/-- The processes that the turn of a task adds are its own, and one of them is a daemon only if an
attempt begins by the turn. -/
theorem badges_of_turn {move : Move} (registered : session.IsRegistered)
    (stands : session.Stands phase) (moves : session.mover move = some id) :
    ∃ more, (session.move move).books.badges = session.books.badges ++ more ∧
      (∀ badge ∈ more, badge.spawner = id) ∧
        (more.countP Badge.isWorker = 0 ∧ ((session.move move).stage? id = some .attempt →
            session.stage? id = some .attempt) ∨
          session.stage? id = some .attempt ∧ (session.move move).stage? id ≠ some .attempt ∧
            more.countP Badge.isWorker = 1) := by
  obtain ⟨more, badges, own⟩ := (entries_of_turn registered moves).badges
  refine ⟨more, badges, own, ?_⟩
  have steps := move_steps stands.live move
  rw [moves] at steps
  have count : (session.move move).world.workers =
      session.world.workers + more.countP Badge.isWorker := by
    rw [← workers_eq, badges, List.countP_append, workers_eq]
  cases found : session.stage? id with
  | none =>
      have none : more = [] := by
        rw [books_of_absent moves found] at badges
        exact List.self_eq_append_right.mp badges
      obtain ⟨ready, same⟩ := move_eq moves
      let queue := { session with ready := session.ready.erase id }
      have missing : queue.stage? id = Option.none := found
      refine .inl ⟨by rw [none]; rfl, fun begins => ?_⟩
      rw [same, resume_of_absent missing] at begins
      exact found.symm.trans begins
  | some stage =>
      rw [← found]
      rcases workers_of_steps steps (lt_of_stage? found) with
        ⟨same, before⟩ | ⟨began, gone, one⟩
      · exact .inl ⟨by omega, before⟩
      · exact .inr ⟨began, gone, by omega⟩

/-- An attempt has spawned at most one daemon, and none before it goes on. -/
def IsFrugal (session : Session) : Prop :=
  ∀ id, (session.books.workersOf id).length ≤ 1 ∧
    (session.stage? id = some .attempt → session.books.workersOf id = [])

theorem IsFrugal.move (frugal : session.IsFrugal) (registered : session.IsRegistered)
    (stands : session.Stands phase) (move : Move) : (session.move move).IsFrugal := by
  intro id
  obtain ⟨few, none⟩ := frugal id
  by_cases moves : session.mover move = some id
  · obtain ⟨more, badges, own, count⟩ := badges_of_turn registered stands moves
    have workers : (session.move move).books.workersOf id =
        session.books.workersOf id ++ more.filter Badge.isWorker := by
      have all : more.filter (fun badge => badge.spawner == id) = more :=
        List.filter_eq_self.mpr fun badge member => by simp [own badge member]
      rw [Books.workersOf, Books.spawnedBy, badges, List.filter_append, List.filter_append, all]
      rfl
    rw [workers, List.length_append, ← List.countP_eq_length_filter]
    rcases count with ⟨zero, before⟩ | ⟨began, gone, one⟩
    · refine ⟨by omega, fun begins => ?_⟩
      rw [none (before begins), List.nil_append, ← List.length_eq_zero_iff,
        ← List.countP_eq_length_filter, zero]
    · exact ⟨by rw [none began, one]; exact Nat.le_refl 1, fun begins => absurd begins gone⟩
  · have same : (session.move move).books.workersOf id = session.books.workersOf id :=
      congrArg (List.filter Badge.isWorker) (spawnedBy_of_move registered moves)
    rw [same]
    refine ⟨few, fun begins => ?_⟩
    by_cases present : id < session.tasks.length
    · exact none ((stage?_of_move stands moves present).symm.trans begins)
    · have unspawned : session.books.spawnedBy id = [] := by
        refine List.filter_eq_nil_iff.mpr fun badge member => ?_
        have old := registered.begun badge member
        simpa using fun own : badge.spawner = id => present (own ▸ old)
      rw [Books.workersOf, unspawned]
      rfl

theorem IsFrugal.follow (frugal : session.IsFrugal) (registered : session.IsRegistered)
    (stands : session.Stands phase) (moves : List Move) : (session.follow moves).IsFrugal := by
  let holds (later : Session) := later.IsFrugal ∧ later.IsRegistered
  have kept : holds (session.follow moves) :=
    keep_of_moves holds stands ⟨frugal, registered⟩ (fun standing held move =>
      ⟨held.1.move held.2 standing move, held.2.move standing move⟩) moves
  exact kept.1

theorem spawner_of_move (registered : session.IsRegistered) (stands : session.Stands phase)
    (move : Move) {badge : Badge} (here : badge ∈ (session.move move).books.badges)
    (worker : badge.isWorker) (new : badge ∉ session.books.badges) :
    session.mover move = some badge.spawner ∧ session.stage? badge.spawner = some .attempt := by
  cases moves : session.mover move with
  | some id =>
      obtain ⟨more, badges, own, count⟩ := badges_of_turn registered stands moves
      rw [badges] at here
      have member := (List.mem_append.mp here).resolve_left new
      cases own badge member
      refine ⟨rfl, ?_⟩
      rcases count with ⟨zero, -⟩ | ⟨began, -⟩
      · exact absurd worker (List.countP_eq_zero.mp zero badge member)
      · exact began
  | none =>
      refine absurd ?_ new
      cases move with
      | turn other => rwa [move_of_idle moves] at here
      | event event => exact (books_receive moves).1 ▸ here

end Workers

section Sharing

variable {session : Session} {phase : Phase} {id attempt other : TaskId} {enters : Bool}

theorem ending?_of_isAttempting (attempting : session.isAttempting attempt) :
    session.ending? attempt = none := by
  obtain ⟨stage, found, kind⟩ := isAttempting_iff.mp attempting
  rw [ending?, found]
  cases stage <;> first | rfl | cases kind

theorem not_attempting_of_ended {ending : Ending}
    (ended : session.stage? attempt = some (.ended ending)) : ¬ session.isAttempting attempt := by
  intro attempting
  cases (ending?_of_isAttempting attempting).symm.trans (ending?_eq_some.mpr ended)

/-- An attempt that ends by a move was the task that went on. -/
theorem mover_of_ending {move : Move} (stands : session.Stands phase)
    (attempting : session.isAttempting attempt)
    (gone : ¬ (session.move move).isAttempting attempt) : session.mover move = some attempt := by
  by_contra other
  obtain ⟨stage, found, kind⟩ := isAttempting_iff.mp attempting
  have still := (stage?_of_move stands other (lt_of_stage? found)).trans found
  exact gone (isAttempting_iff.mpr ⟨stage, still, kind⟩)

theorem attempting_unique (stands : session.Stands phase) (first : session.isAttempting attempt)
    (second : session.isAttempting other) : other = attempt := by
  obtain ⟨one, unfinished⟩ := phase?_of_isAttempting first
  obtain ⟨two, pending⟩ := phase?_of_isAttempting second
  exact Option.some.inj ((stands.attempt_eq pending).symm.trans (stands.attempt_eq unfinished))

/-- While an attempt is unfinished no other one begins. -/
theorem alone_of_move {move : Move} (stands : session.Stands phase)
    (attempting : session.isAttempting attempt)
    (begun : (session.move move).isAttempting other) : other = attempt := by
  obtain ⟨next, standing⟩ := stands.move move
  by_cases still : (session.move move).isAttempting attempt
  · exact attempting_unique standing still begun
  · have moves := mover_of_ending stands attempting still
    obtain ⟨stage, found, kind⟩ := isAttempting_iff.mp attempting
    have deaf : session.IsDeaf (session.mover move) := by
      intro heard standing own here
      cases moves.symm.trans own
      cases stage?_inj found here
      cases stage <;> first | rfl | cases kind
    exact attempting_unique stands attempting (attempting_of_move stands deaf begun)

/-- A caller that is heard while an attempt is unfinished waits for it, and begins no other one. -/
theorem joined_of_move {move : Move} (stands : session.Stands phase)
    (attempting : session.isAttempting attempt)
    (hears : session.HearsStart id move) :
    (∃ enters, (session.move move).stage? id = some (.awaitAttempt attempt enters)) ∧
      (session.move move).tasks.length = session.tasks.length := by
  obtain ⟨found, unfinished⟩ := phase?_of_isAttempting attempting
  have memo := stands.memo attempt (stands.attempt_eq unfinished)
  have pending := ending?_of_isAttempting attempting
  cases heard_of_move hears with
  | greet running text ends =>
      obtain ⟨pid, rfl, -⟩ := stands.running running
      cases stands.attempt_eq unfinished
  | tell notRunning known ended passes ends alone still =>
      cases memo.symm.trans known
      cases pending.symm.trans ended
  | join notRunning known open_ waits alone =>
      cases memo.symm.trans known
      exact ⟨⟨_, waits⟩, alone⟩
  | ask notRunning free waits begun => cases memo.symm.trans free

/-- What happens between turns flags no task but one that is cancelled by it. -/
theorem isFlagged_receive {event : Event} (happens : session.mover (.event event) = none)
    (own : event ≠ .cancel id) (flagged : (session.receive event).isFlagged id) :
    session.isFlagged id := by
  cases event with
  | start enters => exact isFlagged_begin flagged
  | stop => exact isFlagged_begin flagged
  | evaluate form input => exact isFlagged_begin flagged
  | cancel other =>
      have different : other ≠ id := fun same => own (same ▸ rfl)
      rw [receive] at flagged
      split at flagged
      next =>
        have apart : id ≠ other := different.symm
        simpa [isFlagged_requestCancel, apart] using flagged
      next => exact flagged
  | discardDirectory => exact isFlagged_of_tasks (quiet_discardDirectory session).tasks ▸ flagged
  | tick =>
      have idle : session.ready = [] := List.head?_eq_none_iff.mp happens
      rwa [receive, tick, idle] at flagged
  | _ => exact flagged

/-- A caller that waits for an attempt is to be cancelled only where it was asked for. -/
theorem wanted_of_move {move : Move} (minded : session.IsMinded) (stands : session.Stands phase)
    (waits : session.stage? id = some (.awaitAttempt attempt enters))
    (wanted : session.isFlagged id = false) (other : move ≠ .event (.cancel id))
    (still : (session.move move).stage? id = some (.awaitAttempt attempt enters)) :
    (session.move move).isFlagged id = false := by
  cases moves : session.mover move with
  | some mover =>
      let holds (later : Session) := later.IsMinded ∧
        (later.stage? id = some (.awaitAttempt attempt enters) ∧ later.isFlagged id = false ∨
          ∃ ending, later.stage? id = some (.ended ending))
      have kept : holds (session.move move) := by
        have steps := move_steps stands.live move
        rw [moves] at steps
        refine (Steps.keep holds stands ⟨minded, .inl ⟨waits, wanted⟩⟩
          (fun _ ⟨minding, here⟩ step => ⟨minding.step step, ?_⟩) steps).1
        rcases here with ⟨waiting, unflagged⟩ | ⟨ending, ended⟩
        · rcases awaitAttempt_of_step step waiting with waits | ⟨-, outcome, ended, -⟩
          · refine .inl ⟨waits, ?_⟩
            by_contra flagged
            rcases flagged_of_step step nofun (by simpa using flagged) with before | given
            · cases unflagged.symm.trans before
            · obtain ⟨stage, found, looks⟩ := minding id given
              cases stage?_inj found waiting
              cases looks
          · exact .inr ⟨outcome, ended⟩
        · exact .inr ⟨ending, ended_of_step step ended⟩
      rcases kept.2 with ⟨-, unflagged⟩ | ⟨ending, ended⟩
      · exact unflagged
      · cases stage?_inj still ended
  | none =>
      cases move with
      | turn mover => rwa [move_of_idle moves]
      | event event =>
          by_contra flagged
          have own : event ≠ .cancel id := fun same => other (congrArg Move.event same)
          have marked : (session.move (.event event)).isFlagged id = true := by simpa using flagged
          cases wanted.symm.trans (isFlagged_receive moves own marked)

theorem IsMinded.follow (minded : session.IsMinded) (stands : session.Stands phase)
    (moves : List Move) : (session.follow moves).IsMinded :=
  (follow_keep IsMinded stands minded (fun _ minding step => minding.step step)
    moves).1

/-- A caller waits for an attempt that is unfinished or has ended, and is not to be cancelled, or
has ended as the attempt did. -/
inductive Attends (session : Session) (id attempt : TaskId) (enters : Bool) : Prop
  | waits (waiting : session.stage? id = some (.awaitAttempt attempt enters))
      (wanted : session.isFlagged id = false)
      (tried : session.isAttempting attempt ∨
        ∃ ending, session.ending? attempt = some ending ∧ ending ≠ .cancelled)
  | ends {ending outcome : Ending} (ended : session.ending? attempt = some ending)
      (own : ending ≠ .cancelled) (passes : ending.Passes outcome)
      (finished : session.ending? id = some outcome)

theorem ending?_of_move {ending : Ending} (stands : session.Stands phase)
    (ended : session.ending? id = some ending) (move : Move) :
    (session.move move).ending? id = some ending :=
  ending?_eq_some.mpr (ended_of_follow stands (ending?_eq_some.mp ended) [move])

theorem Attends.move {move : Move} (attends : session.Attends id attempt enters)
    (minded : session.IsMinded) (stands : session.Stands phase)
    (other : move ≠ .event (.cancel id)) : (session.move move).Attends id attempt enters := by
  cases attends with
  | ends ended own passes finished =>
      exact .ends (ending?_of_move stands ended move) own passes
        (ending?_of_move stands finished move)
  | waits waiting wanted tried =>
      rcases passes_of_move stands waiting wanted move with
        still | ⟨ending, outcome, ended, passes, finished⟩
      · refine .waits still (wanted_of_move minded stands waiting wanted other still) ?_
        rcases tried with attempting | ⟨ending, ended, own⟩
        · exact (isAttempting_of_move stands attempting move).imp_right
            fun ⟨ending, ended, _, own⟩ => ⟨ending, ending?_eq_some.mpr ended, own⟩
        · exact .inr ⟨ending, ending?_of_move stands ended move, own⟩
      · rcases tried with attempting | ⟨early, had, own⟩
        · cases (ending?_of_isAttempting attempting).symm.trans ended
        · cases had.symm.trans ended
          exact .ends (ending?_of_move stands ended move) own passes (ending?_eq_some.mpr finished)

theorem Attends.follow (attends : session.Attends id attempt enters) (minded : session.IsMinded)
    (stands : session.Stands phase) {moves : List Move} (uncalled : .event (.cancel id) ∉ moves) :
    (session.follow moves).Attends id attempt enters := by
  induction moves generalizing session phase with
  | nil => exact attends
  | cons move moves inductionHypothesis =>
      obtain ⟨other, others⟩ := not_or.mp (List.mem_cons.not.mp uncalled)
      obtain ⟨next, standing⟩ := stands.move move
      exact inductionHypothesis (attends.move minded stands (Ne.symm other))
        (minded.follow stands [move]) standing others

/-- A caller that waits for an attempt that has ended is to run, and ends as the attempt when it
does. -/
theorem Attends.fares (attends : session.Attends id attempt enters) (woken : session.IsWoken) :
    session.Fares id attempt enters := by
  cases attends with
  | ends ended own passes finished => exact .ends ended own passes finished
  | waits waiting wanted tried =>
      rcases tried with attempting | ⟨ending, ended, own⟩
      · exact .waits waiting attempting
      · have finished : session.hasEnded attempt := by rw [hasEnded, ended]; rfl
        have queued : id ∈ session.ready := by
          obtain ⟨task, present, stage⟩ := Option.map_eq_some_iff.mp waiting
          refine woken id task present ?_
          rw [canRun, stage]
          simp [finished]
        have moves : session.mover (.turn id) = some id := by simp [mover, queued]
        obtain ⟨ready, same⟩ := turn_eq moves waiting wanted
        let queue := { session with ready := session.ready.erase id }
        have present : id < queue.tasks.length := lt_of_stage? waiting
        have had : queue.ending? attempt = some ending := ended
        rcases joinAttempt_stage? present enters with
          ⟨pending, -⟩ | ⟨early, outcome, known, passes, ends⟩
        · cases pending.symm.trans had
        · cases known.symm.trans had
          refine .learns waiting ended own queued passes ?_
          rw [same]
          exact ending?_eq_some.mpr ends

end Sharing

/-- Throughout every run, calls that overlap share one attempt to start the daemon, whatever is
called, cancelled, spawned, written and ended in whatever order. -/
theorem follow_isShared (settings : Settings) (tree : Tree) (moves : List Move) :
    ((fresh settings tree).follow moves).IsShared := by
  generalize begun : fresh settings tree = start
  have rests : start.Stands .resting := begun ▸ fresh_stands settings tree
  have registers : start.IsRegistered := begun ▸ fresh_isRegistered settings tree
  have minds : start.IsMinded := begun ▸ nofun
  have wakes : start.IsWoken := begun ▸ by simp [IsWoken, fresh]
  have frugality : start.IsFrugal := begun ▸ fun id => ⟨Nat.zero_le 1, fun _ => rfl⟩
  obtain ⟨phase, stands⟩ := rests.follow moves
  have registered := registers.follow rests moves
  have woken := wakes.follow moves
  have minded := minds.follow rests moves
  have frugal := frugality.follow registers rests moves
  constructor
  · exact fun move attempt other => alone_of_move stands
  · exact fun id move attempt => joined_of_move stands
  · exact fun move badge here => spawner_of_move registered stands move here
  · exact fun id => (frugal id).1
  · intro id attempt enters rest waiting attempting wanted uncalled
    have attends : (start.follow moves).Attends id attempt enters :=
      .waits waiting wanted (.inl attempting)
    exact (attends.follow minded stands uncalled).fares (woken.follow rest)

end Session

end EmacsSession
