/-
This file shows that a daemon is a machine of four states in each run in which every call ends
before the next one is made.
-/

import EmacsSession.Proofs.Session.Course
import EmacsSession.Proofs.Session.Quiescence

namespace EmacsSession.Session

/-- What a call makes of the daemon from the moment on at which it is heard, by the moves up to its
end. -/
inductive Answers (session : Session) (moves : List Move) (id : TaskId) : Stage → Ending → Prop
  | greets {enters : Bool} (running : session.handle.status = .running)
      (only : session.OnlyEnds (session.follow moves) id (session.entered enters)) :
      Answers session moves id (.start enters) (session.entered enters)
  | starts {enters : Bool} {outcome : Ending}
      (rests : session.handle.status = .idle ∨ session.handle.status = .stopped)
      (concludes : (session.follow moves).Concludes session.books.engagements
        (session.Sees moves) outcome) : Answers session moves id (.start enters) outcome
  | stops {pid : Pid} (runs : session.RunsAs pid)
      (stopped : (session.follow moves).handle.status = .stopped)
      (exited : (session.follow moves).hasExited pid)
      (silent : (session.follow moves).books.engagements = session.books.engagements) :
      Answers session moves id .stop (.returned none)
  | declines (notRunning : session.handle.status ≠ .running)
      (only : session.OnlyEnds (session.follow moves) id (.returned none)) :
      Answers session moves id .stop (.returned none)
  | evaluates {form input : Value} {outcome : Ending} {pid : Pid} (runs : session.RunsAs pid)
      (ran : (session.follow moves).RanAs pid) :
      Answers session moves id (.evaluate form input) outcome
  | refuses {form input : Value} (notRunning : session.handle.status ≠ .running)
      (only : session.OnlyEnds (session.follow moves) id
        (.failed (.notStarted session.handle.settings.name))) :
      Answers session moves id (.evaluate form input)
        (.failed (.notStarted session.handle.settings.name))

/-- What holds of a daemon at each moment. -/
structure IsSteady (session : Session) : Prop where
  coherent : session.IsCoherent
  /-- At most one daemon is alive. -/
  alone : ∀ first second, session.world.HasLiveDaemon first →
    session.world.HasLiveDaemon second → first = second
  /-- Between calls the daemon does not start, and only the one that runs can be alive. -/
  settled : session.IsIdle → session.handle.status ≠ .starting ∧
    ∀ pid, session.world.HasLiveDaemon pid → session.RunsAs pid
  /-- A daemon that runs has shown the ready marker. -/
  shown : ∀ pid, session.RunsAs pid → ∃ marker, session.handle.settings.readyMarker = some marker ∧
    marker.toList <:+: (session.world.errors pid).shown
  /-- The exit of a daemon that runs is noticed by a task that is to run, which stops the daemon. -/
  noticed : ∀ pid, session.RunsAs pid → session.hasExited pid →
    ∃ watch ∈ session.ready, session.stage? watch = some (.watch pid) ∧
      (session.move (.turn watch)).handle.status = .stopped
  /-- Where no task is to run, a call that does not evaluate waits for its process. -/
  held : session.ready = [] → ∀ id stage, session.stage? id = some stage → stage.isCaller →
    stage.isEvaluation = false → session.IsHeldUp stage

/-- The daemon is a machine of four states throughout a run. -/
structure Refines (start : Session) (moves : List Move) : Prop where
  answers : ∀ before move course rest id call outcome, moves = before ++ move :: course ++ rest →
    (start.follow before).stage? id = some call → call.isCall →
    (start.follow before).mover move = some id →
    (start.follow before).EndsAfter id (move :: course) outcome →
    (start.follow before).Answers (move :: course) id call outcome
  steady : ∀ before rest, moves = before ++ rest → (start.follow before).IsSteady
  /-- Between calls the daemon stays as it is, unless it runs and its process exits. -/
  rests : ∀ before move rest, moves = before ++ move :: rest → (start.follow before).IsIdle →
    ((start.follow before).move move).handle.status = (start.follow before).handle.status ∨
      ∃ pid, (start.follow before).RunsAs pid ∧
        ((start.follow before).move move).handle.status = .stopped ∧
        ((start.follow before).move move).hasExited pid
  /-- The removal of the init directory touches neither the state nor tasks nor processes. -/
  removes : ∀ before rest, moves = before ++ .event .discardDirectory :: rest →
    Quiet (start.follow before) ((start.follow before).move (.event .discardDirectory))

section Machine

variable {session : Session} {phase : Phase} {id : TaskId} {move : Move} {course : List Move}
  {outcome ending : Ending}

/-- A call that ends by its first move makes no other. -/
theorem OnlyEnds.of_call (only : session.OnlyEnds (session.move move) id ending)
    (present : id < session.tasks.length)
    (call : session.EndsAfter id (move :: course) outcome) : course = [] ∧ outcome = ending := by
  obtain ⟨ready, same⟩ := only
  have ended : (session.move move).stage? id = some (.ended ending) := by
    rw [same]
    exact stage?_moveTo_self present
  obtain rfl := call.eq_nil ended
  cases stage?_inj ended (ending?_eq_some.mp call.ends)
  exact ⟨rfl, rfl⟩

/-- Each call is answered as the state of the daemon demands. -/
theorem IsConducted.answers {call : Stage} (conducted : session.IsConducted)
    (stands : session.Stands phase) (asks : session.stage? id = some call) (calls : call.isCall)
    (moves : session.mover move = some id)
    (sequential : session.IsSequential (move :: course))
    (ends : session.EndsAfter id (move :: course) outcome) :
    session.Answers (move :: course) id call outcome := by
  have serial := conducted.serial
  have present := lt_of_stage? asks
  cases call with
  | start enters =>
      have hears := serial.hearsStart moves asks
      by_cases running : session.handle.status = .running
      · have only := onlyEnds_of_start hears asks running
        obtain ⟨rfl, rfl⟩ := only.of_call present ends
        exact .greets running only
      · have concludes := concludes_of_call conducted stands hears running sequential ends
        refine .starts ?_ concludes
        cases status : session.handle.status with
        | idle => exact .inl rfl
        | starting =>
            obtain ⟨attempt, attempting⟩ := conducted.starting status
            exact absurd attempting (serial.not_attempting stands asks rfl nofun attempt)
        | running => exact absurd status running
        | stopped => exact .inr rfl
  | stop =>
      have hears := serial.hearsStop moves asks
      by_cases running : session.handle.status = .running
      · obtain ⟨pid, -, current⟩ := stands.running running
        have runs : session.RunsAs pid := ⟨running, current⟩
        obtain ⟨rfl, stopped, exited, silent⟩ :=
          stops_of_call conducted stands hears runs sequential ends
        exact .stops runs stopped exited silent
      · have only : session.OnlyEnds (session.move move) id (.returned none) :=
          move_of_notRunning hears running
        obtain ⟨rfl, rfl⟩ := only.of_call present ends
        exact .declines running only
  | evaluate form input =>
      by_cases running : session.handle.status = .running
      · obtain ⟨pid, -, current⟩ := stands.running running
        have runs : session.RunsAs pid := ⟨running, current⟩
        exact .evaluates runs
          (ranAs_of_call conducted stands asks rfl (.inl runs) sequential ends)
      · have only := onlyEnds_of_evaluate serial asks moves running
        obtain ⟨rfl, rfl⟩ := only.of_call present ends
        exact .refuses running only
  | _ => cases calls

theorem IsSerial.alone_daemon (serial : session.IsSerial) (stands : session.Stands phase)
    {first second : Pid} (one : session.world.HasLiveDaemon first)
    (two : session.world.HasLiveDaemon second) : first = second := by
  have resting {pid : Pid} {waiter : TaskId}
      (waits : session.stage? waiter = some (.awaitTermination pid)) : phase = .resting :=
    stands.unique (serial.resting_of_awaitTermination stands waits)
  rcases serial.live phase stands first one with own | ⟨waiter, waits⟩
  · rcases serial.live phase stands second two with same | ⟨other, waiting⟩
    · exact Option.some.inj (own.symm.trans same)
    · cases resting waiting
      cases own
  · rcases serial.live phase stands second two with own | ⟨other, waiting⟩
    · cases resting waits
      cases own
    · cases serial.eq_of_caller waits rfl waiting rfl
      rfl

theorem IsConducted.settled (conducted : session.IsConducted) (stands : session.Stands phase)
    (idle : session.IsIdle) : session.handle.status ≠ .starting ∧
      ∀ pid, session.world.HasLiveDaemon pid → session.RunsAs pid := by
  have none := conducted.serial.not_attempting_of_idle stands idle
  constructor
  · intro starting
    obtain ⟨attempt, attempting⟩ := conducted.starting starting
    exact none attempt attempting
  · intro pid live
    by_cases running : session.handle.status = .running
    · obtain ⟨other, rfl, current⟩ := stands.running running
      rcases conducted.serial.live _ stands pid live with own | ⟨waiter, waits⟩
      · cases own
        exact ⟨running, current⟩
      · cases idle waiter _ waits
    · have rests := stands.resting_of_idle running none
      rcases conducted.serial.live _ rests pid live with own | ⟨waiter, waits⟩
      · cases own
      · cases idle waiter _ waits

theorem IsConducted.isSteady (conducted : session.IsConducted) (stands : session.Stands phase)
    (coherent : session.IsCoherent) (joins : session.Joins) (woken : session.IsWoken) :
    session.IsSteady where
  coherent := coherent
  alone _ _ one two := conducted.serial.alone_daemon stands one two
  settled := conducted.settled stands
  shown pid runs := by
    obtain ⟨other, marker, current, setting, shows⟩ := conducted.listens.shown runs.1
    cases current.symm.trans runs.2
    exact ⟨marker, setting, shows⟩
  noticed pid runs exited :=
    noticed_of_exit woken (conducted.keeps pid runs.1 runs.2 (conducted.serial.tended runs.1)) runs
      exited
  held still _ _ found caller other :=
    isHeldUp_of_caller conducted.serial stands joins woken still found caller other

/-- Between calls the daemon stays as it is, unless it runs and its process exits. -/
theorem IsConducted.rests (conducted : session.IsConducted) (stands : session.Stands phase)
    (idle : session.IsIdle) (move : Move) :
    (session.move move).handle.status = session.handle.status ∨
      ∃ pid, session.RunsAs pid ∧ (session.move move).handle.status = .stopped ∧
        (session.move move).hasExited pid := by
  have deaf : session.IsDeaf (session.mover move) := by
    intro other stage _ found
    by_contra order
    have caller := Stage.isCaller_of_isOrder (by simpa using order)
    cases caller.symm.trans (idle other stage found)
  by_cases running : session.handle.status = .running
  · obtain ⟨pid, -, current⟩ := stands.running running
    have runs : session.RunsAs pid := ⟨running, current⟩
    have ran : session.RanAs pid := .inl runs
    rcases ran.move stands (absurd running) deaf with still | ⟨stopped, exited⟩
    · exact .inl (still.1.trans running.symm)
    · exact .inr ⟨pid, runs, stopped, exited⟩
  · have none := conducted.serial.not_attempting_of_idle stands idle
    exact .inl (status_of_move (stands.resting_of_idle running none) deaf)

end Machine

section Computing

/-- A session is searched for unfinished calls. -/
instance (session : Session) : Decidable session.IsIdle :=
  decidable_of_iff (∀ task ∈ session.tasks, task.stage.isCaller = false) <| by
    constructor
    · intro none id stage found
      obtain ⟨task, present, rfl⟩ := Option.map_eq_some_iff.mp found
      exact none task (List.mem_of_getElem? present)
    · intro idle task member
      obtain ⟨id, present⟩ := List.getElem?_of_mem member
      exact idle id task.stage (by rw [stage?, present]; rfl)

instance (session : Session) : (move : Move) → Decidable (session.Allows move)
  | .turn _ => .isTrue trivial
  | .event (.start _) | .event .stop | .event (.evaluate _ _) | .event .discardDirectory =>
      inferInstanceAs (Decidable session.IsIdle)
  | .event (.cancel _) | .event (.plan (.unfit _)) => .isFalse id
  | .event (.breakErrors pid _) =>
      decidable_of_iff ((session.world.process? pid).all fun process => !process.isDaemon) <| by
        cases found : session.world.process? pid <;> simp [Allows, found]
  | .event (.plan (.refused _)) | .event (.plan (.spawned _)) | .event (.planDisk _)
  | .event (.writeErrors _ _) | .event (.closeErrors _) | .event (.writeOutput _ _)
  | .event (.closeOutput _) | .event (.breakOutput _ _) | .event (.connect _)
  | .event (.exit _ _) | .event .tick => .isTrue trivial

theorem IsSequential.nil (session : Session) : session.IsSequential [] := by
  rintro (- | ⟨first, others⟩) move after ⟨⟩

theorem IsSequential.cons {session : Session} {move : Move} {moves : List Move}
    (allowed : session.Allows move) (sequential : (session.move move).IsSequential moves) :
    session.IsSequential (move :: moves) := by
  rintro (- | ⟨first, others⟩) next after ⟨⟩
  · exact allowed
  · exact sequential others next after rfl

/-- A run is searched for a call that is made too early. -/
instance decidableIsSequential :
    (session : Session) → (moves : List Move) → Decidable (session.IsSequential moves)
  | session, [] => .isTrue (.nil session)
  | session, move :: moves =>
      have := decidableIsSequential (session.move move) moves
      decidable_of_iff (session.Allows move ∧ (session.move move).IsSequential moves)
        ⟨fun both => .cons both.1 both.2, fun sequential => ⟨sequential.head, sequential.tail⟩⟩

end Computing

/-- In every run in which each call ends before the next one is made, in whatever way processes
write and exit in between, and whatever the operating system refuses, the daemon is a machine of
four states. -/
theorem refines_of_isSequential {settings : Settings} (usable : settings.IsUsable) (tree : Tree)
    {moves : List Move} (sequential : (fresh settings tree).IsSequential moves) :
    (fresh settings tree).Refines moves := by
  have start := fresh_stands settings tree
  have conducts {before rest : List Move} (split : moves = before ++ rest) :
      ((fresh settings tree).follow before).IsConducted ∧
        ((fresh settings tree).follow before).IsSequential rest ∧
          ∃ phase, ((fresh settings tree).follow before).Stands phase := by
    rw [split] at sequential
    obtain ⟨conducted, standing⟩ :=
      (fresh_isConducted usable tree).follow start sequential.append.1
    exact ⟨conducted, sequential.append.2, standing⟩
  constructor
  · intro before move course rest id call outcome split asks calls mover ends
    rw [List.append_assoc] at split
    obtain ⟨conducted, sequential, phase, stands⟩ := conducts split
    exact conducted.answers stands asks calls mover sequential.append.1 ends
  · intro before rest split
    obtain ⟨conducted, -, phase, stands⟩ := conducts split
    obtain ⟨⟨coherent, joins, -⟩, -⟩ := follow_keep
      (fun session => session.IsCoherent ∧ session.Joins ∧ session.Remembers) start
      ⟨fresh_isCoherent settings tree, by simp [Joins, fresh_stage?], nofun⟩
      (fun stands holds step => ⟨holds.1.step stands step, holds.2.1.step holds.2.2 step,
        holds.2.2.step step⟩) before
    have woken : (fresh settings tree).IsWoken := by simp [IsWoken, fresh]
    exact conducted.isSteady stands coherent joins (woken.follow before)
  · intro before move rest split idle
    obtain ⟨conducted, -, phase, stands⟩ := conducts split
    exact conducted.rests stands idle move
  · intro before rest split
    exact (quiet_discardDirectory _).trans (Quiet.wake _)

/-- The daemon becomes ready, is asked to run once more, and to stop. Another one becomes ready, and
exits by itself. -/
def obeying : List Move :=
  sampleStart 0 1001 ++ [.event (.start false), .turn 4, .event .stop, .turn 5, .turn 2, .turn 3,
    .turn 5] ++ sampleStart 6 1002 ++ [.event (.exit 1002 3), .turn 9]

theorem endsAfter_obeying : (sample.follow (obeying.take 9)).EndsAfter 5
    [.turn 5, .turn 2, .turn 3, .turn 5] (.returned none) :=
  .of_take rfl (by decide)

/-- The call that asks for the daemon to stop returns to a daemon that has stopped. -/
theorem refines_obeying : sample.IsSequential obeying ∧ sample.Refines obeying ∧
    (sample.follow (obeying.take 9)).Answers [.turn 5, .turn 2, .turn 3, .turn 5] 5 .stop
      (.returned none) := by
  have usable : sample.handle.settings.IsUsable := ⟨⟨"R", rfl, by decide⟩, rfl⟩
  have sequential : sample.IsSequential obeying := by decide
  have refines : sample.Refines obeying := refines_of_isSequential usable _ sequential
  exact ⟨sequential, refines, refines.answers _ _ _ _ 5 .stop _ (by rfl) rfl rfl rfl
    endsAfter_obeying⟩

end EmacsSession.Session
