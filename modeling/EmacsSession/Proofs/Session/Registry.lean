/-
This file shows that the books of a session agree with its tasks throughout every run.
-/

import EmacsSession.Proofs.Session.Service

namespace EmacsSession

theorem Stage.isEvaluation_of_client? {stage : Stage} {pid : Pid}
    (waits : stage.client? = some pid) : stage.isEvaluation := by
  cases stage <;> first | rfl | cases waits

namespace Session

/-- The books agree with the tasks: every process was spawned by a task, and every call that
evaluates a form stands to its client as its stage tells. -/
structure IsRegistered (session : Session) : Prop where
  sound : session.books.IsSound
  begun : ∀ badge ∈ session.books.badges, badge.spawner < session.tasks.length
  served : ∀ id stage, session.stage? id = some stage → stage.isEvaluation →
    ∃ form input, session.IsServed session.handle.settings id form input

section Registry

variable {session after : Session} {phase : Phase} {mover : Option TaskId} {id : TaskId}
  {pid : Pid} {settings : Settings} {form input : Value}

theorem settings_of_step (step : Step mover session after) :
    after.handle.settings = session.handle.settings := by
  cases step with
  | quiet quiet => exact quiet.settings
  | leave found ended passes =>
      rw [finish_eq_moveTo, moveTo_handle, forget]
      split <;> rfl
  | abandon found flagged =>
      rw [finish_eq_moveTo, moveTo_handle, forget]
      split <;> rfl
  | dismiss found running current message => rw [moveTo_handle, dismiss_handle]
  | release found exited => rw [moveTo_handle, releaseBackground_handle]
  | _ => rfl

theorem settings_of_move (stands : session.Stands phase) (move : Move) :
    (session.move move).handle.settings = session.handle.settings := by
  refine (Steps.keep (fun later => later.handle.settings = session.handle.settings) stands rfl
    (fun _ same step => ?_) (move_steps stands.live move)).1
  exact (settings_of_step step).trans same

theorem length_of_steps (steps : Steps mover session after) :
    session.tasks.length ≤ after.tasks.length := by
  induction steps with
  | refl => exact Nat.le_refl _
  | tail _ step inductionHypothesis => exact Nat.le_trans inductionHypothesis (length_of_step step)

/-- A caller that evaluates did so before, or is new. -/
theorem evaluation_of_steps {stage : Stage} (steps : Steps mover session after)
    (here : after.stage? id = some stage) (evaluation : stage.isEvaluation) :
    (∃ earlier, session.stage? id = some earlier ∧ earlier.isEvaluation) ∨
      mover = none ∧ session.tasks.length ≤ id := by
  induction steps generalizing stage with
  | refl => exact .inl ⟨stage, here, evaluation⟩
  | @tail middle after steps step inductionHypothesis =>
      cases arrival_of_step step here with
      | stay before => exact inductionHypothesis before evaluation
      | proceed moves before proceeds =>
          refine inductionHypothesis before ?_
          cases proceeds with
          | evaluate earlier still => exact earlier
          | _ => cases evaluation
      | call new nobody call => exact .inr ⟨nobody, Nat.le_trans (length_of_steps steps) new⟩
      | attempt new => cases evaluation
      | attend new given found same looks =>
          rw [Stage.charge?_of_isEvaluation evaluation] at looks
          cases looks

theorem IsRegistered.owned (registered : session.IsRegistered) {stage : Stage}
    (found : session.stage? id = some stage) (waits : stage.client? = some pid) :
    session.books.Owns id pid := by
  obtain ⟨form, input, standing, there, serves⟩ :=
    registered.served id stage found (Stage.isEvaluation_of_client? waits)
  cases stage?_inj found there
  exact serves.owns waits

theorem begun_of_entries {books later : Books} {count : Nat}
    (begun : ∀ badge ∈ books.badges, badge.spawner < count) (present : id < count)
    (entries : Books.Entries id books later) : ∀ badge ∈ later.badges, badge.spawner < count := by
  induction entries with
  | refl => exact begun
  | tail _ entry inductionHypothesis =>
      cases entry with
      | decline arguments input output errors => simpa [Books.enter] using inductionHypothesis
      | spawn new next own arguments input output errors =>
          intro badge member
          rcases List.mem_append.mp member with old | fresh
          · exact inductionHypothesis badge old
          · cases List.mem_singleton.mp fresh
            exact own ▸ present
      | give own octets => exact inductionHypothesis

/-- The books after the turn of a task differ by what that task has written. -/
theorem entries_of_turn {move : Move} (registered : session.IsRegistered)
    (moves : session.mover move = some id) :
    Books.Entries id session.books (session.move move).books := by
  obtain ⟨ready, same⟩ := move_eq moves
  let queue := { session with ready := session.ready.erase id }
  have entries : Books.Entries id queue.books (queue.resume id).books :=
    resume_entries fun stage pid found waits => registered.owned found waits
  rw [same]
  exact entries

theorem books_of_absent {move : Move} (moves : session.mover move = some id)
    (absent : session.stage? id = none) : (session.move move).books = session.books := by
  obtain ⟨ready, same⟩ := absent_eq moves absent
  rw [same]
  rfl

/-- The turn of another task keeps what the books say about a task. -/
theorem keeps_of_turn {move : Move} (registered : session.IsRegistered) {other : TaskId}
    (moves : session.mover move = some other) (different : id ≠ other) :
    session.books.Keeps (session.move move).books id :=
  (entries_of_turn registered moves).keeps registered.sound different

/-- What happens between turns keeps what the books say about a task. -/
theorem keeps_of_event {event : Event} (happens : session.mover (.event event) = none)
    (id : TaskId) : session.books.Keeps (session.move (.event event)).books id := by
  obtain ⟨badges, engagements⟩ := books_receive happens
  have same : (session.move (.event event)).books = (session.receive event).books := rfl
  rw [same]
  refine ⟨by rw [Books.spawnedBy, badges, Books.spawnedBy], fun pid closed => ?_, fun pid _ => by
    rw [Books.about, engagements, Books.about]⟩
  obtain ⟨unread, still⟩ := extends_receive happens pid
  have silent : session.printedBy pid (.event event) = [] := by
    have shut : (session.world.output pid).isClosed = true := closed
    cases event <;> simp [printedBy, shut]
  rw [silent, List.append_nil] at unread
  exact ⟨still closed, unread⟩

theorem move_of_idle {other : TaskId} (idle : session.mover (.turn other) = none) :
    session.move (.turn other) = session := by
  rw [mover] at idle
  rw [Session.move]
  split at idle
  next => cases idle
  next waits => exact if_neg waits

/-- A call that evaluates a form keeps its client, whatever happens. -/
theorem IsServed.move (served : session.IsServed settings id form input)
    (registered : session.IsRegistered) (stands : session.Stands phase)
    (same : session.handle.settings = settings) (move : Move) :
    (session.move move).IsServed settings id form input := by
  cases moves : session.mover move with
  | some other =>
      by_cases own : id = other
      · subst own
        obtain ⟨ready, equal⟩ := move_eq moves
        let queue := { session with ready := session.ready.erase id }
        have resumed : (queue.resume id).IsServed settings id form input :=
          isServed_resume registered.sound same served
        rw [equal]
        exact resumed
      · obtain ⟨stage, found, serves⟩ := served
        refine ⟨stage, ?_, serves.keeps (keeps_of_turn registered moves own)⟩
        rw [stage?_of_move stands (by simpa [moves] using Ne.symm own) (lt_of_stage? found), found]
  | none =>
      obtain ⟨stage, found, serves⟩ := served
      have still : (session.move move).stage? id = some stage := by
        rw [stage?_of_move stands (by simp [moves]) (lt_of_stage? found), found]
      refine ⟨stage, still, serves.keeps ?_⟩
      cases move with
      | event event => exact keeps_of_event moves id
      | turn other =>
          rw [move_of_idle moves]
          exact .refl _ _

/-- Only calls begin by what happens between turns. -/
theorem stage?_of_event {event : Event} {stage : Stage}
    (happens : session.mover (.event event) = none) (new : session.tasks.length ≤ id)
    (here : (session.move (.event event)).stage? id = some stage)
    (evaluation : stage.isEvaluation) :
    ∃ form input, event = .evaluate form input ∧ id = session.tasks.length ∧
      stage = .evaluate form input := by
  have absent (same : (session.receive event).stage? = session.stage?) :
      ∃ form input, event = .evaluate form input ∧ id = session.tasks.length ∧
        stage = .evaluate form input := by
    have found : session.stage? id = some stage := same ▸ here
    exact absurd (lt_of_stage? found) (Nat.not_lt.mpr new)
  have begins {first : Stage} (here : (session.begin first).stage? id = some stage) :
      id = session.tasks.length ∧ stage = first := by
    rcases stage?_begin here with found | begun
    · exact absurd (lt_of_stage? found) (Nat.not_lt.mpr new)
    · exact begun
  cases event with
  | start enters =>
      obtain ⟨-, rfl⟩ := begins here
      cases evaluation
  | stop =>
      obtain ⟨-, rfl⟩ := begins here
      cases evaluation
  | evaluate form input =>
      obtain ⟨rfl, rfl⟩ := begins here
      exact ⟨form, input, rfl, rfl, rfl⟩
  | cancel other =>
      apply absent
      rw [receive]
      split
      next => exact stage?_requestCancel
      next => rfl
  | discardDirectory => exact absent (stage?_of_tasks (quiet_discardDirectory session).tasks)
  | tick =>
      apply absent
      have idle : session.ready = [] := List.head?_eq_none_iff.mp happens
      rw [receive, tick, idle]
  | _ => exact absent rfl

theorem fresh_isRegistered (settings : Settings) (tree : Tree) :
    (fresh settings tree).IsRegistered where
  sound := ⟨rfl, nofun⟩
  begun := nofun
  served id stage found := by
    rw [fresh_stage?] at found
    cases found

theorem IsRegistered.move (registered : session.IsRegistered) (stands : session.Stands phase)
    (move : Move) : (session.move move).IsRegistered := by
  have settings := settings_of_move stands move
  have steps := move_steps stands.live move
  have grown := length_of_steps steps
  have old {id : TaskId} {stage : Stage} (found : session.stage? id = some stage)
      (evaluation : stage.isEvaluation) :
      ∃ form input, (session.move move).IsServed (session.move move).handle.settings id form
        input := by
    obtain ⟨form, input, served⟩ := registered.served id stage found evaluation
    rw [settings]
    exact ⟨form, input, served.move registered stands rfl move⟩
  cases moves : session.mover move with
  | some id =>
      have entries := entries_of_turn registered moves
      rw [moves] at steps
      refine ⟨entries.sound registered.sound, ?_, fun other stage here evaluation => ?_⟩
      · intro badge member
        refine Nat.lt_of_lt_of_le ?_ grown
        cases found : session.stage? id with
        | some stage =>
            exact begun_of_entries registered.begun (lt_of_stage? found) entries _ member
        | none =>
            rw [books_of_absent moves found] at member
            exact registered.begun badge member
      · rcases evaluation_of_steps steps here evaluation with ⟨earlier, found, before⟩ | ⟨nobody, -⟩
        · exact old found before
        · cases nobody
  | none =>
      cases move with
      | turn other =>
          rw [move_of_idle moves]
          exact registered
      | event event =>
          obtain ⟨badges, engagements⟩ := books_receive moves
          have sameBadges : (session.move (.event event)).books.badges = session.books.badges :=
            badges
          have sameEngagements :
              (session.move (.event event)).books.engagements = session.books.engagements :=
            engagements
          refine ⟨⟨?_, ?_⟩, ?_, fun other stage here evaluation => ?_⟩
          · rw [sameBadges]
            exact registered.sound.numbered
          · rw [sameBadges, sameEngagements]
            exact registered.sound.known
          · rw [sameBadges]
            exact fun badge member => Nat.lt_of_lt_of_le (registered.begun badge member) grown
          · rw [moves] at steps
            rcases evaluation_of_steps steps here evaluation with
              ⟨earlier, found, before⟩ | ⟨-, new⟩
            · exact old found before
            · obtain ⟨form, input, rfl, rfl, rfl⟩ := stage?_of_event moves new here evaluation
              refine ⟨form, input, _, here, .asks ?_⟩
              rw [Books.spawnedBy, sameBadges, List.filter_eq_nil_iff]
              intro badge member
              simpa using Nat.ne_of_lt (registered.begun badge member)

end Registry

end Session

end EmacsSession
