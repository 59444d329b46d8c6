/-
This file shows that each task reads the diagnostics of its own process only, and that no two tasks
read those of one process.
-/

import EmacsSession.Proofs.Session.Overtaking
import EmacsSession.Proofs.Session.StartCall

namespace EmacsSession

namespace Stream

/-- The chunks that were read from a stream, first one first. -/
def inOrder (stream : Stream) : List (List UInt8) :=
  stream.chunks.reverse

/-- Nothing more was read from a stream, and nothing came behind its end. -/
structure Keeps (before after : Stream) : Prop where
  chunks : after.chunks = before.chunks
  settled : before.isClosed = true → after.isClosed = true ∧ after.unread = before.unread

theorem Keeps.refl (stream : Stream) : stream.Keeps stream :=
  ⟨rfl, fun closed => ⟨closed, rfl⟩⟩

theorem Keeps.trans {first middle last : Stream} (start : first.Keeps middle)
    (goes : middle.Keeps last) : first.Keeps last := by
  refine ⟨goes.chunks.trans start.chunks, fun closed => ?_⟩
  obtain ⟨still, unread⟩ := start.settled closed
  obtain ⟨later, same⟩ := goes.settled still
  exact ⟨later, same.trans unread⟩

theorem Keeps.inOrder {before after : Stream} (keeps : before.Keeps after) :
    after.inOrder = before.inOrder :=
  congrArg List.reverse keeps.chunks

theorem inOrder_afterReading (stream : Stream) (taken left : List (List UInt8)) :
    (stream.afterReading taken left).inOrder = stream.inOrder ++ taken := by
  simp [inOrder, afterReading]

end Stream

namespace Stage

/-- The process that an attempt in this stage waits for to become ready. -/
def young? : Stage → Option Pid
  | .awaitSpawn pid => some pid
  | .awaitReady pid _ => some pid
  | .awaitCode pid => some pid
  | _ => none

/-- The process whose diagnostics a task in this stage reads. -/
def reads? : Stage → Option Pid
  | .relay pid _ => some pid
  | stage => stage.young?

theorem reads?_of_isCall {stage : Stage} (call : stage.isCall) : stage.reads? = none := by
  cases stage <;> first | rfl | cases call

theorem reads?_of_isEvaluation {stage : Stage} (evaluation : stage.isEvaluation) :
    stage.reads? = none := by
  cases stage <;> first | rfl | cases evaluation

theorem reads?_of_young? {stage : Stage} (young : stage.young?.isSome) : stage.reads?.isSome := by
  cases stage <;> first | rfl | cases young

theorem charge?_of_young? {stage : Stage} (young : stage.young?.isSome) : stage.charge? = none := by
  cases stage <;> first | rfl | cases young

/-- A task that reads diagnostics is an attempt or forwards them. -/
theorem reads?_cases {stage : Stage} {pid : Pid} (reads : stage.reads? = some pid) :
    stage.young? = some pid ∨ ∃ diagnostics, stage = .relay pid diagnostics := by
  cases stage with
  | relay other diagnostics =>
      cases reads
      exact .inr ⟨diagnostics, rfl⟩
  | _ => exact .inl reads

theorem phase?_of_young? {stage : Stage} {pid : Pid} (young : stage.young? = some pid)
    (id : TaskId) : ∃ phase, stage.phase? id = some phase ∧ phase.young? = some pid := by
  cases stage <;> first | cases young; exact ⟨_, rfl, rfl⟩ | cases young

end Stage

theorem World.errors_alter_keeps {world : World} {pid : Pid} {change : Process → Process}
    (continues : ∀ process : Process, process.Continues (change process)) (other : Pid) :
    (world.errors other).Keeps ((world.alter pid change).errors other) := by
  rw [errors, errors, process?_alter fun process => (continues process).pid]
  cases world.process? other with
  | none => exact .refl _
  | some process =>
      simp only [Option.map_some]
      split
      next =>
        have goes := continues process
        exact ⟨goes.chunks, fun closed => ⟨goes.closed closed, goes.settled closed⟩⟩
      next => exact .refl _

namespace Session

/-- No task reads the diagnostics of a process that is known. -/
structure IsDeserted (session : Session) (pid : Pid) : Prop where
  known : session.world.Knows pid
  silent : ∀ id stage, session.stage? id = some stage → stage.reads? ≠ some pid

/-- No two tasks forward the diagnostics of one process. -/
def HasOneRelay (session : Session) : Prop :=
  ∀ pid first second diagnostics others, session.stage? first = some (.relay pid diagnostics) →
    session.stage? second = some (.relay pid others) → first = second

section Steps

variable {session after : Session} {phase : Phase} {mover : Option TaskId} {id : TaskId}
  {stage : Stage} {pid : Pid}

/-- By a small step more is read from a process by the task that reads from it, or nothing is. -/
theorem errors_of_step (stands : session.Stands phase) (step : Step mover session after)
    (known : session.world.Knows pid) :
    (session.world.errors pid).Keeps (after.world.errors pid) ∨
      (∃ id stage, mover = some id ∧ session.stage? id = some stage ∧ stage.reads? = some pid) ∧
        ∃ taken left,
          after.world.errors pid = (session.world.errors pid).afterReading taken left := by
  have same (equal : after.world.errors pid = session.world.errors pid) :
      (session.world.errors pid).Keeps (after.world.errors pid) := equal ▸ .refl _
  have enlisted {process : Process}
      (next : process.pid = World.firstPid + session.world.processes.length) :
      (session.world.enlist process).errors pid = session.world.errors pid := by
    obtain ⟨old, found⟩ := Option.isSome_iff_exists.mp known
    rw [World.errors, World.process?_enlist_of_known stands.numbered next found, World.errors,
      found]
  cases step with
  | quiet quiet => exact .inl (same (by rw [quiet.errors]))
  | develop other change continues => exact .inl (World.errors_alter_keeps continues pid)
  | leave found ended passes => exact .inl (same (by simp))
  | abandon found flagged => exact .inl (same (by simp))
  | spawn found starting process next daemon alive silent => exact .inl (same (enlisted next))
  | @read _ id other readiness later found taken left follows =>
      by_cases own : pid = other
      · subst own
        exact .inr ⟨⟨id, _, rfl, found, rfl⟩, taken, left, takeChunks_errors_self taken left known⟩
      · exact .inl (same (takeChunks_errors_of_ne taken left own))
  | @relay _ id other diagnostics found taken left later =>
      by_cases own : pid = other
      · subst own
        exact .inr ⟨⟨id, _, rfl, found, rfl⟩, taken, left, takeChunks_errors_self taken left known⟩
      · exact .inl (same (takeChunks_errors_of_ne taken left own))
  | dismiss found running current message =>
      left
      rw [moveTo_world, dismiss_world]
      split
      next => exact .refl _
      next => exact World.errors_alter_keeps Process.terminate_continues pid
  | release found exited =>
      exact .inl (same (by rw [moveTo_world, releaseBackground_world]))
  | spawnClient found running process next client silent => exact .inl (same (enlisted next))
  | _ => exact .inl (.refl _)

/-- What was read from a process stays read. -/
theorem prefix_of_step (stands : session.Stands phase) (step : Step mover session after)
    (known : session.world.Knows pid) :
    (session.world.errors pid).inOrder <+: (after.world.errors pid).inOrder := by
  rcases errors_of_step stands step known with keeps | ⟨-, taken, left, equal⟩
  · exact keeps.inOrder ▸ List.prefix_refl _
  · rw [equal, Stream.inOrder_afterReading]
    exact List.prefix_append _ _

/-- A task that reads from a process did so before a step, or has the process by it. -/
theorem reader_of_step (stands : session.Stands phase) (step : Step mover session after)
    (known : session.world.Knows pid) (here : after.stage? id = some stage)
    (reads : stage.reads? = some pid) :
    (∃ earlier, session.stage? id = some earlier ∧ earlier.reads? = some pid) ∨
      session.tasks.length ≤ id ∧ ∃ attempt readiness,
        session.stage? attempt = some (.awaitReady pid readiness) := by
  cases arrival_of_step step here with
  | stay before => exact .inl ⟨stage, before, reads⟩
  | proceed moves before proceeds =>
      cases proceeds with
      | spawn =>
          -- The process of a new attempt was not known.
          cases reads
          obtain ⟨next, standing, passage⟩ := stands.step step
          cases stands.eq_of_stage? before rfl
          cases standing.eq_of_stage? here rfl
          cases passage with
          | spawn new => exact absurd known new
      | attach => exact .inl ⟨_, before, reads⟩
      | read => exact .inl ⟨_, before, reads⟩
      | close => exact .inl ⟨_, before, reads⟩
      | relay => exact .inl ⟨_, before, reads⟩
      | evaluate evaluation still =>
          rw [Stage.reads?_of_isEvaluation still] at reads
          cases reads
      | _ => cases reads
  | call new nobody call =>
      rw [Stage.reads?_of_isCall call] at reads
      cases reads
  | attempt new => cases reads
  | attend new given found same looks =>
      cases stage with
      | relay other diagnostics =>
          cases reads
          cases looks
          exact .inr ⟨new, _, _, found⟩
      | watch other => cases reads
      | _ => cases looks

/-- A process that no task reads from is read from by none later. -/
theorem IsDeserted.step (deserted : session.IsDeserted pid) (stands : session.Stands phase)
    (step : Step mover session after) : after.IsDeserted pid := by
  refine ⟨knows_of_step stands step deserted.known, fun id stage here reads => ?_⟩
  rcases reader_of_step stands step deserted.known here reads with
    ⟨earlier, before, same⟩ | ⟨-, attempt, readiness, waits⟩
  · exact deserted.silent id earlier before same
  · exact deserted.silent attempt _ waits rfl

/-- A task that forwards diagnostics did so before a step, or is the one that begins when the daemon
becomes ready by it. -/
theorem relay_before_step {diagnostics : Diagnostics} (step : Step mover session after)
    (here : after.stage? id = some (.relay pid diagnostics)) :
    (∃ earlier, session.stage? id = some (.relay pid earlier)) ∨ id = session.tasks.length ∧
      ∃ attempt readiness, session.stage? attempt = some (.awaitReady pid readiness) := by
  cases arrival_of_step step here with
  | stay before => exact .inl ⟨_, before⟩
  | proceed moves before proceeds =>
      cases proceeds with
      | relay => exact .inl ⟨_, before⟩
      | evaluate evaluation still => cases still
  | call new nobody call => cases call
  | @attend _ attempt _ readiness others new given found same looks =>
      subst same
      cases looks
      have watches := (tended_of_ready others found).watches
      have either : id = session.tasks.length ∨ id = session.tasks.length + 1 := by
        simpa using given
      rcases either with first | second
      · exact .inr ⟨first, attempt, readiness, found⟩
      · rw [second, watches] at here
        cases here

theorem HasOneRelay.step (alone : session.HasOneRelay) (stands : session.Stands phase)
    (step : Step mover session after) : after.HasOneRelay := by
  intro pid first second diagnostics others one two
  have strange {other attempt : TaskId} {earlier : Diagnostics} {readiness : Readiness}
      (relays : session.stage? other = some (.relay pid earlier))
      (waits : session.stage? attempt = some (.awaitReady pid readiness)) : False := by
    have old := (stands.charges other _ pid relays rfl).2
    cases stands.eq_of_stage? waits rfl
    exact old rfl
  rcases relay_before_step step one with ⟨earlier, before⟩ | ⟨new, attempt, readiness, waits⟩
  · rcases relay_before_step step two with ⟨former, present⟩ | ⟨-, attempt, readiness, waits⟩
    · exact alone pid first second earlier former before present
    · exact (strange before waits).elim
  · rcases relay_before_step step two with ⟨former, present⟩ | ⟨same, -⟩
    · exact (strange present waits).elim
    · rw [new, same]

end Steps

section Moves

variable {session : Session} {phase : Phase} {id other : TaskId} {stage standing : Stage}
  {pid : Pid}

/-- By a move nothing is read from a process that the task that goes on does not read from. -/
theorem errors_of_move {move : Move} (stands : session.Stands phase)
    (known : session.world.Knows pid)
    (apart : ∀ id stage, session.mover move = some id → session.stage? id = some stage →
      stage.reads? ≠ some pid) :
    (session.world.errors pid).Keeps ((session.move move).world.errors pid) := by
  by_cases absent : ∃ id, session.mover move = some id ∧ session.stage? id = none
  · obtain ⟨id, moves, missing⟩ := absent
    obtain ⟨ready, same⟩ := absent_eq moves missing
    rw [same]
    exact .refl _
  · let holds (later : Session) := (session.world.errors pid).Keeps (later.world.errors pid) ∧
      later.world.Knows pid ∧ ∀ id, session.mover move = some id → id < later.tasks.length ∧
        ∀ stage, later.stage? id = some stage → stage.reads? ≠ some pid
    have begins : holds session := by
      refine ⟨.refl _, known, fun id moves => ⟨?_, fun stage => apart id stage moves⟩⟩
      cases found : session.stage? id with
      | none => exact absurd ⟨id, moves, found⟩ absent
      | some stage => exact lt_of_stage? found
    have kept : holds (session.move move) := by
      refine (Steps.keep holds stands begins (fun standing held step => ?_)
        (move_steps stands.live move)).1
      obtain ⟨keeps, knows, apart⟩ := held
      refine ⟨?_, knows_of_step standing step knows, fun id moves => ?_⟩
      · rcases errors_of_step standing step knows with still | ⟨⟨id, stage, moves, found, reads⟩, -⟩
        · exact keeps.trans still
        · exact absurd reads ((apart id moves).2 stage found)
      · obtain ⟨present, silent⟩ := apart id moves
        refine ⟨Nat.lt_of_lt_of_le present (length_of_step step), fun stage here reads => ?_⟩
        rcases reader_of_step standing step knows here reads with ⟨earlier, before, same⟩ | ⟨new, -⟩
        · exact silent earlier before same
        · exact absurd present (Nat.not_lt.mpr new)
    exact kept.1

theorem prefix_of_move (stands : session.Stands phase) (known : session.world.Knows pid)
    (move : Move) :
    (session.world.errors pid).inOrder <+: ((session.move move).world.errors pid).inOrder := by
  let holds (later : Session) := later.world.Knows pid ∧
    (session.world.errors pid).inOrder <+: (later.world.errors pid).inOrder
  have kept : holds (session.move move) := by
    refine (Steps.keep holds stands ⟨known, List.prefix_refl _⟩ (fun standing held step => ?_)
      (move_steps stands.live move)).1
    exact ⟨knows_of_step standing step held.1,
      held.2.trans (prefix_of_step standing step held.1)⟩
  exact kept.2

theorem knows_of_move (stands : session.Stands phase) (known : session.world.Knows pid)
    (move : Move) : (session.move move).world.Knows pid :=
  (Steps.keep (fun later => later.world.Knows pid) stands known
    (fun standing held step => knows_of_step standing step held) (move_steps stands.live move)).1

theorem IsDeserted.move (deserted : session.IsDeserted pid) (stands : session.Stands phase)
    (move : Move) : (session.move move).IsDeserted pid :=
  (Steps.keep (IsDeserted · pid) stands deserted
    (fun standing held step => held.step standing step) (move_steps stands.live move)).1

theorem HasOneRelay.move (alone : session.HasOneRelay) (stands : session.Stands phase)
    (move : Move) : (session.move move).HasOneRelay :=
  (Steps.keep HasOneRelay stands alone
    (fun standing held step => held.step standing step) (move_steps stands.live move)).1

/-- While an attempt waits for its process to become ready, no other task reads from that. -/
theorem apart_of_young (stands : session.Stands phase) (found : session.stage? id = some stage)
    (young : stage.young? = some pid) (different : other ≠ id)
    (here : session.stage? other = some standing) : standing.reads? ≠ some pid := by
  intro reads
  obtain ⟨own, unfinished, current⟩ := Stage.phase?_of_young? young id
  have waking := stands.eq_of_stage? found unfinished
  subst waking
  rcases Stage.reads?_cases reads with youth | ⟨diagnostics, rfl⟩
  · obtain ⟨another, pending, -⟩ := Stage.phase?_of_young? youth other
    have one := stands.attempt_eq ((phase?_of_stage? found).trans unfinished)
    have two := stands.attempt_eq ((phase?_of_stage? here).trans pending)
    exact different (Option.some.inj (two.symm.trans one))
  · exact (stands.charges other _ pid here rfl).2 current

/-- While a task forwards the diagnostics of a process, no other task reads them. -/
theorem apart_of_relay {diagnostics : Diagnostics} (stands : session.Stands phase)
    (alone : session.HasOneRelay) (found : session.stage? id = some (.relay pid diagnostics))
    (different : other ≠ id) (here : session.stage? other = some standing) :
    standing.reads? ≠ some pid := by
  intro reads
  rcases Stage.reads?_cases reads with youth | ⟨others, rfl⟩
  · exact apart_of_young stands here youth (Ne.symm different) found rfl
  · exact different (alone pid other id others diagnostics here found)

end Moves

end Session

end EmacsSession
