/-
This file shows when an attempt finds the ready marker in the diagnostics of its process, and how it
fails where it does not.
-/

import EmacsSession.Proofs.Marker
import EmacsSession.Proofs.Session.Relaying

namespace EmacsSession

/-- A task has been given these diagnostics to go on with and forwards them with the chunks that
were read since, or has ended. -/
inductive Stage.GoesOnFrom (pid : Pid) (start : Diagnostics) (chunks : List (List UInt8)) :
    Stage → Prop
  | goes {sent : List (List Char)} {kept : Diagnostics}
      (forwards : start.Forwards chunks sent kept) : GoesOnFrom pid start chunks (.relay pid kept)
  | ended (ending : Ending) : GoesOnFrom pid start chunks (.ended ending)

namespace Session

/-- What was read of the diagnostics of a process does not show the marker. -/
def Hides (session : Session) (marker : List Char) (pid : Pid) : Prop :=
  ¬ marker <:+: textOf (session.world.errors pid).inOrder

/-- The diagnostics of a process have come to their end and were read up to there. -/
structure IsHeardOut (session : Session) (pid : Pid) : Prop where
  closed : (session.world.errors pid).isClosed
  all : (session.world.errors pid).unread = []

/-- What an attempt has found in the diagnostics of its process up to its stage: nothing as long as
it waits, and the marker when it has returned. It returned with the first chunk that shows the
marker, and what is behind the first occurrence is where the forwarding goes on from. If the
diagnostics end without the marker, it fails with the exit code of the process, whatever that is. -/
inductive Detects (session : Session) (marker : List Char) (pid : Pid) : Stage → Prop
  | connects (silent : (session.world.errors pid).inOrder = []) :
      Detects session marker pid (.awaitSpawn pid)
  | listens (hides : session.Hides marker pid) :
      Detects session marker pid
        (.awaitReady pid (.after marker (session.world.errors pid).inOrder))
  | waits (hides : session.Hides marker pid) (heard : session.IsHeardOut pid) :
      Detects session marker pid (.awaitCode pid)
  | exits {code : Int} (hides : session.Hides marker pid) (heard : session.IsHeardOut pid)
      (exited : session.world.exitCode? pid = some code) (deserted : session.IsDeserted pid) :
      Detects session marker pid (.ended (.failed (.abnormalExit (some code)
        (some ("Emacs daemon " ++ session.handle.settings.name ++ " exited with code " ++
          toString code ++ " before it was ready")))))
  | kills (error : SystemError) (hides : session.Hides marker pid)
      (broken : (session.world.errors pid).fault.isSome) (deserted : session.IsDeserted pid) :
      Detects session marker pid (.awaitEnd pid (.system error))
  | killed (error : SystemError) (hides : session.Hides marker pid)
      (broken : (session.world.errors pid).fault.isSome) (deserted : session.IsDeserted pid) :
      Detects session marker pid (.ended (.failed (.system error)))
  | returns {taken later : List (List UInt8)} {before rest : List Char} {relay : TaskId}
      {standing : Stage} (read : (session.world.errors pid).inOrder = taken ++ later)
      (completes : Completes marker taken) (first : IsFirst marker (textOf taken) before rest)
      (found : session.stage? relay = some standing)
      (goesOn : standing.GoesOnFrom pid ⟨(Utf8.Decoder.idle.feed taken.flatten).1, rest⟩ later) :
      Detects session marker pid (.ended (.returned none))

section Keeping

variable {session after : Session} {marker : List Char} {pid : Pid} {stage : Stage}

theorem Hides.keep (hides : session.Hides marker pid)
    (keeps : (session.world.errors pid).Keeps (after.world.errors pid)) :
    after.Hides marker pid := by
  rw [Hides, keeps.inOrder]
  exact hides

theorem IsHeardOut.keep (heard : session.IsHeardOut pid)
    (keeps : (session.world.errors pid).Keeps (after.world.errors pid)) : after.IsHeardOut pid := by
  obtain ⟨closed, unread⟩ := keeps.settled heard.closed
  exact ⟨closed, unread.trans heard.all⟩

theorem IsDeserted.keep (deserted : session.IsDeserted pid) (world : after.world = session.world)
    (tasks : after.tasks = session.tasks) : after.IsDeserted pid := by
  refine ⟨world ▸ deserted.known, fun id stage here => ?_⟩
  rw [stage?_of_tasks tasks] at here
  exact deserted.silent id stage here

/-- Only processes, tasks and settings matter. -/
theorem Detects.keep (detects : session.Detects marker pid stage)
    (world : after.world = session.world) (tasks : after.tasks = session.tasks)
    (settings : after.handle.settings = session.handle.settings) :
    after.Detects marker pid stage := by
  have keeps : (session.world.errors pid).Keeps (after.world.errors pid) := world ▸ .refl _
  cases detects with
  | connects silent => exact .connects (keeps.inOrder.trans silent)
  | listens hides =>
      rw [← keeps.inOrder]
      exact .listens (hides.keep keeps)
  | waits hides heard => exact .waits (hides.keep keeps) (heard.keep keeps)
  | exits hides heard exited deserted =>
      rw [← settings]
      exact .exits (hides.keep keeps) (heard.keep keeps) (world ▸ exited)
        (deserted.keep world tasks)
  | kills error hides broken deserted =>
      exact .kills error (hides.keep keeps) (world ▸ broken) (deserted.keep world tasks)
  | killed error hides broken deserted =>
      exact .killed error (hides.keep keeps) (world ▸ broken) (deserted.keep world tasks)
  | returns read completes first found goesOn =>
      exact .returns (keeps.inOrder.trans read) completes first
        ((congrFun (stage?_of_tasks tasks) _).trans found) goesOn

end Keeping

section Attempts

variable {session : Session} {id : TaskId} {pid : Pid} {marker : List Char}

/-- No other task reads from the process. -/
def IsSoleReader (session : Session) (id : TaskId) (pid : Pid) : Prop :=
  ∀ other stage, other ≠ id → session.stage? other = some stage → stage.reads? ≠ some pid

theorem IsSoleReader.isDeserted {stage : Stage} (sole : session.IsSoleReader id pid)
    (known : session.world.Knows pid) (present : id < session.tasks.length)
    (silent : stage.reads? = none) : (session.moveTo id stage).IsDeserted pid := by
  refine ⟨known, fun other standing here => ?_⟩
  rcases stage?_moveTo here with ⟨-, rfl⟩ | before
  · rw [silent]
    nofun
  · by_cases same : other = id
    · subst same
      rw [stage?_moveTo_self present] at here
      cases here
      rw [silent]
      nofun
    · exact sole other standing same before

/-- An attempt that fails ends at once where its process has exited. -/
theorem failAttempt_of_exited (exited : session.hasExited pid) (fault : Fault) :
    session.failAttempt id pid fault =
      ((session.withProcess none).become .stopped).finish id (.failed fault) := by
  have ended : ((session.withProcess none).become .stopped).hasExited pid = true := exited
  simp only [failAttempt, ended, if_true]

theorem detects_failWithCode (present : id < session.tasks.length)
    (known : session.world.Knows pid) (sole : session.IsSoleReader id pid)
    (hides : session.Hides marker pid) (heard : session.IsHeardOut pid) :
    ∃ stage, (session.failWithCode id pid).stage? id = some stage ∧
      (session.failWithCode id pid).Detects marker pid stage := by
  rw [failWithCode]
  split
  next code exited =>
    have ended : session.hasExited pid := by
      rw [hasExited, World.hasExited, exited]
      rfl
    have failed := @failAttempt_of_exited session id pid ended (session.earlyExit code)
    let stopped := (session.withProcess none).become .stopped
    have alone : stopped.IsSoleReader id pid := sole
    rw [failed]
    exact ⟨_, stage?_moveTo_self present,
      .exits hides ⟨heard.closed, heard.all⟩ exited (alone.isDeserted known present rfl)⟩
  next => exact ⟨_, stage?_moveTo_self present, .waits hides ⟨heard.closed, heard.all⟩⟩

theorem kill_errors (session : Session) (pid other : Pid) :
    (session.kill pid).world.errors other = session.world.errors other := by
  refine World.errors_alter (fun process => (Process.kill_continues process).pid) other id
    fun process => ?_
  rw [Process.kill]
  split <;> rfl

theorem detects_failAttempt (present : id < session.tasks.length)
    (known : session.world.Knows pid) (sole : session.IsSoleReader id pid)
    (hides : session.Hides marker pid) (broken : (session.world.errors pid).fault.isSome)
    (error : SystemError) :
    ∃ stage, (session.failAttempt id pid (.system error)).stage? id = some stage ∧
      (session.failAttempt id pid (.system error)).Detects marker pid stage := by
  let stopped := (session.withProcess none).become .stopped
  let ending := if stopped.hasExited pid then stopped else stopped.kill pid
  have errors : ending.world.errors pid = session.world.errors pid := by
    dsimp only [ending]
    split
    · rfl
    · exact kill_errors stopped pid pid
  have tasks : ending.tasks = session.tasks := by
    dsimp only [ending]
    split <;> rfl
  have knows : ending.world.Knows pid := by
    dsimp only [ending]
    split
    · exact known
    · exact (World.knows_alter (fun process => (Process.kill_continues process).pid) pid).mpr known
  have inside : id < ending.tasks.length := tasks ▸ present
  have alone : ending.IsSoleReader id pid := by
    rw [IsSoleReader, stage?_of_tasks tasks]
    exact sole
  have keeps : (session.world.errors pid).Keeps (ending.world.errors pid) := errors ▸ .refl _
  have hidden : ending.Hides marker pid := hides.keep keeps
  have refused : (ending.world.errors pid).fault.isSome := errors ▸ broken
  have fails : session.failAttempt id pid (.system error) =
      if ending.hasExited pid then ending.finish id (.failed (.system error))
      else ending.moveTo id (.awaitEnd pid (.system error)) := rfl
  rw [fails]
  split
  next =>
    exact ⟨_, stage?_moveTo_self inside,
      .killed error hidden refused (alone.isDeserted knows inside rfl)⟩
  next =>
    exact ⟨_, stage?_moveTo_self inside,
      .kills error hidden refused (alone.isDeserted knows inside rfl)⟩

/-- A later session has these chunks read from the diagnostics of a process, and the same tasks. -/
structure HasRead (session later : Session) (pid : Pid) (taken left : List (List UInt8)) :
    Prop where
  known : later.world.Knows pid
  tasks : later.tasks = session.tasks
  errors : later.world.errors pid = (session.world.errors pid).afterReading taken left

theorem hasRead_logged (known : session.world.Knows pid) (taken left : List (List UInt8))
    (texts : List (List Char)) :
    session.HasRead (texts.foldl logChunk (session.takeChunks pid taken left)) pid taken left := by
  let change (process : Process) : Process :=
    { process with errors := process.errors.afterReading taken left }
  have keeps (process : Process) : (change process).pid = process.pid := rfl
  have quiet := Quiet.foldl_logChunk texts (session.takeChunks pid taken left)
  refine ⟨?_, quiet.tasks, ?_⟩
  · rw [foldl_logChunk_world]
    exact (World.knows_alter keeps pid).mpr known
  · exact (congrFun quiet.errors pid).trans (takeChunks_errors_self taken left known)

theorem HasRead.inOrder {later : Session} {taken left : List (List UInt8)}
    (reads : session.HasRead later pid taken left) :
    (later.world.errors pid).inOrder = (session.world.errors pid).inOrder ++ taken := by
  rw [reads.errors, Stream.inOrder_afterReading]

theorem stage?_becomeReady_relay {diagnostics : Diagnostics} (present : id < session.tasks.length) :
    (session.becomeReady id pid diagnostics).stage? session.tasks.length =
      some (.relay pid diagnostics) := by
  have begun : ((session.moveTo id (.ended (.returned none))).begin
      (.relay pid diagnostics)).stage? session.tasks.length = some (.relay pid diagnostics) := by
    have self := @stage?_begin_self (session.moveTo id (.ended (.returned none)))
      (.relay pid diagnostics)
    rwa [moveTo_length] at self
  rw [stage?_of_tasks (becomeReady_tasks _ _ _ _ present), stage?_begin_of_lt (lt_of_stage? begun),
    begun]

/-- An attempt returns when what it has read shows the marker. -/
theorem detects_becomeReady {later : Session} {taken left : List (List UInt8)}
    {before rest : List Char} (reads : session.HasRead later pid taken left)
    (present : id < session.tasks.length)
    (completes : Completes marker ((session.world.errors pid).inOrder ++ taken))
    (first : IsFirst marker (textOf ((session.world.errors pid).inOrder ++ taken)) before rest) :
    (later.becomeReady id pid
      ⟨(Utf8.Decoder.idle.feed ((session.world.errors pid).inOrder ++ taken).flatten).1,
        rest⟩).Detects marker pid (.ended (.returned none)) := by
  have inside : id < later.tasks.length := reads.tasks ▸ present
  refine .returns ?_ completes first (stage?_becomeReady_relay inside) (.goes .begun)
  rw [List.append_nil]
  exact reads.inOrder

/-- An attempt goes on to wait when all that was shown so far does not show the marker. -/
theorem detects_lacking {later : Session} {chunks : List (List UInt8)}
    (reads : session.HasRead later pid chunks []) (present : id < session.tasks.length)
    (sole : session.IsSoleReader id pid)
    (hidden : ¬ marker <:+: textOf ((session.world.errors pid).inOrder ++ chunks)) :
    ∃ stage, (if (session.world.errors pid).isClosed then later.failWithCode id pid
        else later.moveTo id (.awaitReady pid
          (.after marker ((session.world.errors pid).inOrder ++ chunks)))).stage? id = some stage ∧
      (if (session.world.errors pid).isClosed then later.failWithCode id pid
        else later.moveTo id (.awaitReady pid
          (.after marker ((session.world.errors pid).inOrder ++ chunks)))).Detects marker pid
            stage := by
  have inside : id < later.tasks.length := reads.tasks ▸ present
  have hides : later.Hides marker pid := by
    rw [Hides, reads.inOrder]
    exact hidden
  split
  next closed =>
    have alone : later.IsSoleReader id pid := by
      rw [IsSoleReader, stage?_of_tasks reads.tasks]
      exact sole
    have heard : later.IsHeardOut pid := by
      refine ⟨?_, ?_⟩
      · rw [reads.errors]
        exact closed
      · rw [reads.errors]
        rfl
    exact detects_failWithCode inside reads.known alone hides heard
  next lasts =>
    refine ⟨_, stage?_moveTo_self inside, ?_⟩
    rw [← reads.inOrder]
    exact .listens hides

/-- An attempt that reads on finds the marker with the first chunk that shows it. -/
theorem detects_readUntilReady {letters : String} (present : id < session.tasks.length)
    (known : session.world.Knows pid) (sole : session.IsSoleReader id pid)
    (marked : session.handle.settings.readyMarker = some letters) (some : letters.toList ≠ [])
    (hides : session.Hides letters.toList pid) :
    ∃ stage, (session.readUntilReady id pid
        (.after letters.toList (session.world.errors pid).inOrder)).stage? id = Option.some stage ∧
      (session.readUntilReady id pid
        (.after letters.toList (session.world.errors pid).inOrder)).Detects letters.toList pid
          stage := by
  rw [readUntilReady, marked]
  dsimp only
  cases broken : (session.world.errors pid).fault with
  | some error => exact detects_failAttempt present known sole hides (by rw [broken]; rfl) error
  | none =>
      dsimp only
      have finds := Readiness.run_finds some hides (session.world.errors pid).coming
      generalize Readiness.run letters.toList
        (.after letters.toList (session.world.errors pid).inOrder)
        (session.world.errors pid).coming = result at finds ⊢
      cases finds with
      | @shown texts taken left before rest cut completes first count =>
          have read : (session.world.errors pid).coming.take texts.length = taken := by
            rw [cut, count, List.take_left]
          have reads := hasRead_logged known taken left texts
          dsimp only
          rw [read]
          exact ⟨_, stage?_becomeReady_self (reads.tasks ▸ present),
            detects_becomeReady reads present completes first⟩
      | @hidden texts hidden count =>
          have read : (session.world.errors pid).coming.take texts.length =
              (session.world.errors pid).coming := by
            rw [count, List.take_length]
          dsimp only
          rw [read]
          exact detects_lacking (hasRead_logged known _ [] texts) present sole hidden

theorem after_nil (marker : List Char) : Readiness.after marker [] = {} := by
  rw [Readiness.after, textOf, lastCharacters]
  simp

theorem detects_attach {letters : String} (present : id < session.tasks.length)
    (known : session.world.Knows pid) (sole : session.IsSoleReader id pid)
    (marked : session.handle.settings.readyMarker = some letters) (some : letters.toList ≠ [])
    (silent : (session.world.errors pid).inOrder = []) :
    ∃ stage, (session.attach id pid).stage? id = Option.some stage ∧
      (session.attach id pid).Detects letters.toList pid stage := by
  rw [attach]
  split
  next =>
    let current := session.withProcess (Option.some pid)
    have hides : current.Hides letters.toList pid := by
      have none : (current.world.errors pid).inOrder = [] := silent
      rw [Hides, none]
      exact fun inside => some (List.infix_nil.mp inside)
    have reads :=
      @detects_readUntilReady current id pid letters present known sole marked some hides
    have none : (current.world.errors pid).inOrder = [] := silent
    rw [none, after_nil] at reads
    exact reads
  next => exact ⟨_, stage?_moveTo_self present, .connects silent⟩

theorem IsDeserted.moveTo {stage : Stage} (deserted : session.IsDeserted pid)
    (silent : stage.reads? = none) : (session.moveTo id stage).IsDeserted pid := by
  refine ⟨deserted.known, fun other standing here => ?_⟩
  rcases stage?_moveTo here with ⟨-, rfl⟩ | before
  · rw [silent]
    nofun
  · exact deserted.silent other standing before

/-- An attempt that goes on finds what its next stage tells. -/
theorem detects_resume {letters : String} {stage : Stage}
    (sole : stage.young? = some pid → session.world.Knows pid ∧ session.IsSoleReader id pid)
    (marked : session.handle.settings.readyMarker = some letters) (some : letters.toList ≠ [])
    (found : session.stage? id = Option.some stage)
    (detects : session.Detects letters.toList pid stage) :
    ∃ later, (session.resume id).stage? id = Option.some later ∧
      (session.resume id).Detects letters.toList pid later := by
  have present := lt_of_stage? found
  have same : session.resume id = session.proceed id stage := by
    rw [resume_of_stage found]
    split
    next => cases detects <;> rfl
    next => rfl
  rw [same]
  cases detects with
  | connects silent =>
      exact detects_attach present (sole rfl).1 (sole rfl).2 marked some silent
  | listens hides =>
      exact detects_readUntilReady present (sole rfl).1 (sole rfl).2 marked some hides
  | waits hides heard => exact detects_failWithCode present (sole rfl).1 (sole rfl).2 hides heard
  | kills error hides broken deserted =>
      rw [proceed]
      split
      next =>
        exact ⟨_, stage?_moveTo_self present, .killed error hides broken (deserted.moveTo rfl)⟩
      next => exact ⟨_, found, .kills error hides broken deserted⟩
  | exits hides heard exited deserted => exact ⟨_, found, .exits hides heard exited deserted⟩
  | killed error hides broken deserted => exact ⟨_, found, .killed error hides broken deserted⟩
  | returns read completes first there goesOn =>
      exact ⟨_, found, .returns read completes first there goesOn⟩

end Attempts

section Moves

variable {session : Session} {phase : Phase} {id : TaskId} {pid : Pid} {stage : Stage}
  {marker : List Char}

theorem isSoleReader_of_young (stands : session.Stands phase)
    (found : session.stage? id = some stage) (young : stage.young? = some pid) :
    session.world.Knows pid ∧ session.IsSoleReader id pid := by
  refine ⟨?_, fun other standing different here =>
    apart_of_young stands found young different here⟩
  obtain ⟨own, unfinished, current⟩ := Stage.phase?_of_young? young id
  cases stands.eq_of_stage? found unfinished
  refine stands.known ?_
  cases phase <;> first | exact current | cases current

theorem broken_of_move (stands : session.Stands phase) (move : Move)
    (broken : (session.world.errors pid).fault.isSome) :
    ((session.move move).world.errors pid).fault.isSome := by
  refine (Steps.keep (fun later => (later.world.errors pid).fault.isSome) stands broken
    (fun {before after phase} standing refused step => ?_) (move_steps stands.live move)).1
  cases found : before.world.process? pid with
  | none => simp [World.errors, found] at refused
  | some process =>
      obtain ⟨later, there, lasts⟩ := process?_of_step standing step found
      rw [World.errors, found] at refused
      rw [World.errors, there]
      exact lasts.broken refused

/-- The forwarding goes on from what was given, whatever task goes on. -/
theorem goesOnFrom_of_move {relay : TaskId} {start : Diagnostics} {taken later : List (List UInt8)}
    (stands : session.Stands phase) (alone : session.HasOneRelay)
    (known : session.world.Knows pid)
    (read : (session.world.errors pid).inOrder = taken ++ later)
    (found : session.stage? relay = some stage) (goesOn : stage.GoesOnFrom pid start later)
    (move : Move) : ∃ more standing,
      ((session.move move).world.errors pid).inOrder = taken ++ (later ++ more) ∧
        (session.move move).stage? relay = some standing ∧
          standing.GoesOnFrom pid start (later ++ more) := by
  cases goesOn with
  | ended ending =>
      obtain ⟨more, same⟩ := prefix_of_move stands known move
      refine ⟨more, _, ?_, ended_of_move stands found move, .ended ending⟩
      rw [← same, read, List.append_assoc]
  | @goes sent kept forwards =>
      by_cases moves : session.mover move = some relay
      · have reads (fed : (session.move move).world.errors pid =
            (session.world.errors pid).afterReading (session.world.errors pid).coming []) :
            ((session.move move).world.errors pid).inOrder =
              taken ++ (later ++ (session.world.errors pid).coming) := by
          rw [fed, Stream.inOrder_afterReading, read, List.append_assoc]
        have still (unread : (session.move move).world.errors pid = session.world.errors pid) :
            ((session.move move).world.errors pid).inOrder = taken ++ (later ++ []) := by
          rw [unread, read, List.append_nil]
        cases relays_of_move stands moves found with
        | goes lasts stays fed utters =>
            exact ⟨_, _, reads fed, stays, .goes (forwards.goOn _)⟩
        | returned closed ends fed utters => exact ⟨_, _, reads fed, ends, .ended _⟩
        | cancelled ends unread utters => exact ⟨[], _, still unread, ends, .ended _⟩
        | refused broken ends unread utters => exact ⟨[], _, still unread, ends, .ended _⟩
      · have keeps := errors_of_move stands known fun other stage moved here =>
          apart_of_relay stands alone found (fun own => moves (own ▸ moved)) here
        have stays := (stage?_of_move stands moves (lt_of_stage? found)).trans found
        refine ⟨[], _, ?_, stays, ?_⟩
        · rw [keeps.inOrder, read, List.append_nil]
        · rw [List.append_nil]
          exact .goes forwards

/-- What an attempt has found stays so while it does not go on. -/
theorem Detects.stay {move : Move} (detects : session.Detects marker pid stage)
    (stands : session.Stands phase) (alone : session.HasOneRelay) (known : session.world.Knows pid)
    (found : session.stage? id = some stage) (other : session.mover move ≠ some id) :
    (session.move move).Detects marker pid stage := by
  have listening (young : stage.young? = some pid) :
      (session.world.errors pid).Keeps ((session.move move).world.errors pid) :=
    errors_of_move stands known fun mover standing moves here =>
      apart_of_young stands found young (fun own => other (own ▸ moves)) here
  cases detects with
  | connects silent => exact .connects ((listening rfl).inOrder.trans silent)
  | listens hides =>
      rw [← (listening rfl).inOrder]
      exact .listens (hides.keep (listening rfl))
  | waits hides heard => exact .waits (hides.keep (listening rfl)) (heard.keep (listening rfl))
  | exits hides heard exited deserted =>
      have keeps := errors_of_deserted deserted stands move
      rw [← settings_of_move stands move]
      exact .exits (hides.keep keeps) (heard.keep keeps) (exitCode?_of_move stands move exited)
        (deserted.move stands move)
  | kills error hides broken deserted =>
      have keeps := errors_of_deserted deserted stands move
      exact .kills error (hides.keep keeps) (broken_of_move stands move broken)
        (deserted.move stands move)
  | killed error hides broken deserted =>
      have keeps := errors_of_deserted deserted stands move
      exact .killed error (hides.keep keeps) (broken_of_move stands move broken)
        (deserted.move stands move)
  | returns read completes first there goesOn =>
      obtain ⟨more, standing, still, here, goes⟩ :=
        goesOnFrom_of_move stands alone known read there goesOn move
      exact .returns still completes first here goes

theorem Detects.move {letters : String} (detects : session.Detects letters.toList pid stage)
    (stands : session.Stands phase) (alone : session.HasOneRelay)
    (known : session.world.Knows pid)
    (marked : session.handle.settings.readyMarker = some letters) (some : letters.toList ≠ [])
    (found : session.stage? id = Option.some stage) (move : Move) :
    ∃ later, (session.move move).stage? id = Option.some later ∧
      (session.move move).Detects letters.toList pid later := by
  by_cases moves : session.mover move = Option.some id
  · obtain ⟨ready, same⟩ := move_eq moves
    let queue := { session with ready := session.ready.erase id }
    have standing : queue.stage? id = Option.some stage := found
    have waiting : queue.Detects letters.toList pid stage := detects.keep rfl rfl rfl
    have sole (young : stage.young? = Option.some pid) :
        queue.world.Knows pid ∧ queue.IsSoleReader id pid := by
      have alone := isSoleReader_of_young stands found young
      exact alone
    obtain ⟨later, here, found⟩ := detects_resume sole marked some standing waiting
    rw [same]
    exact ⟨later, here, found.keep rfl rfl rfl⟩
  · exact ⟨stage, (stage?_of_move stands moves (lt_of_stage? found)).trans found,
      detects.stay stands alone known found moves⟩

/-- An attempt goes on by a move that had just begun, or had a process that is not ready. -/
def GoesOn (session : Session) (move : Move) (id : TaskId) : Prop :=
  session.mover move = some id ∧ ∃ earlier,
    session.stage? id = some earlier ∧ (earlier = .attempt ∨ earlier.young?.isSome)

/-- What is known of an attempt within a move. It is there if it goes on, and it waits for a process
only if it did so before, in the same stage, or goes on. -/
structure IsRooted (session : Session) (move : Move) (id : TaskId) (later : Session) : Prop where
  present : session.mover move = some id → id < later.tasks.length
  had : ∀ stage, later.stage? id = some stage → stage.young?.isSome →
    session.stage? id = some stage ∨ session.GoesOn move id
  began : session.mover move = some id → later.stage? id = some .attempt → session.GoesOn move id

theorem isRooted_self {move : Move} (there : session.mover move = some id →
    id < session.tasks.length) : session.IsRooted move id session :=
  ⟨there, fun _ found _ => .inl found, fun moves found => ⟨moves, _, found, .inl rfl⟩⟩

theorem IsRooted.step {move : Move} {before after : Session}
    (rooted : session.IsRooted move id before) (step : Step (session.mover move) before after) :
    session.IsRooted move id after := by
  have goes {earlier : Stage} (moves : session.mover move = some id)
      (found : before.stage? id = some earlier) (young : earlier.young?.isSome) :
      session.GoesOn move id := by
    rcases rooted.had earlier found young with same | goes
    · exact ⟨moves, earlier, same, .inr young⟩
    · exact goes
  refine ⟨fun moves => Nat.lt_of_lt_of_le (rooted.present moves) (length_of_step step), ?_, ?_⟩
  · intro standing here young
    cases arrival_of_step step here with
    | stay found => exact rooted.had standing found young
    | proceed moves found proceeds =>
        cases proceeds with
        | spawn => exact .inr (rooted.began moves found)
        | attach => exact .inr (goes moves found rfl)
        | read => exact .inr (goes moves found rfl)
        | close => exact .inr (goes moves found rfl)
        | evaluate evaluation still =>
            have reads := Stage.reads?_of_young? young
            rw [Stage.reads?_of_isEvaluation still] at reads
            cases reads
        | _ => cases young
    | call new nobody call =>
        have reads := Stage.reads?_of_young? young
        rw [Stage.reads?_of_isCall call] at reads
        cases reads
    | attempt new => cases young
    | attend new given found same looks =>
        rw [Stage.charge?_of_young? young] at looks
        cases looks
  · intro moves here
    cases arrival_of_step step here with
    | stay found => exact rooted.began moves found
    | proceed _ found proceeds =>
        cases proceeds with
        | evaluate evaluation still => cases still
    | call new nobody call => cases call
    | attempt new => exact absurd (rooted.present moves) (Nat.not_lt.mpr new)
    | attend new given found same looks => cases looks

/-- An attempt that waits for its process after a move has waited for it in the same stage before,
or goes on by the move. -/
theorem goesOn_of_young {move : Move} (stands : session.Stands phase)
    (here : (session.move move).stage? id = some stage) (young : stage.young? = some pid) :
    session.stage? id = some stage ∨ session.GoesOn move id := by
  by_cases absent : session.mover move = some id ∧ session.stage? id = none
  · obtain ⟨moves, missing⟩ := absent
    obtain ⟨ready, same⟩ := absent_eq moves missing
    rw [same] at here
    cases missing.symm.trans here
  · have there (moves : session.mover move = some id) : id < session.tasks.length := by
      cases found : session.stage? id with
      | none => exact absurd ⟨moves, found⟩ absent
      | some stage => exact lt_of_stage? found
    have rooted := (Steps.keep (session.IsRooted move id) stands (isRooted_self there)
      (fun _ rooted step => rooted.step step) (move_steps stands.live move)).1
    exact rooted.had stage here (by rw [young]; rfl)

end Moves

section Births

variable {session : Session} {phase : Phase} {id : TaskId} {pid : Pid} {stage : Stage}
  {letters : String} {marker : List Char}

/-- Tasks read from processes that are known. -/
def ReadsKnown (session : Session) : Prop :=
  ∀ id stage pid, session.stage? id = some stage → stage.reads? = some pid →
    session.world.Knows pid

theorem Stands.readsKnown (stands : session.Stands phase) : session.ReadsKnown := by
  intro id stage pid found reads
  rcases Stage.reads?_cases reads with young | ⟨diagnostics, rfl⟩
  · exact (isSoleReader_of_young stands found young).1
  · exact (stands.charges id _ pid found rfl).1

/-- An attempt waits for the process that it has found something about. -/
theorem Detects.young {other : Pid} (detects : session.Detects marker other stage)
    (young : stage.young? = some pid) : other = pid := by
  cases detects <;> first | exact Option.some.inj young | cases young

theorem detects_launch (reads : session.ReadsKnown) (numbered : session.world.IsNumbered)
    (present : id < session.tasks.length)
    (marked : session.handle.settings.readyMarker = some letters) (some : letters.toList ≠ [])
    (directory : Path) (here : (session.launch id directory).stage? id = Option.some stage)
    (young : stage.young? = Option.some pid) :
    (session.launch id directory).Detects letters.toList pid stage := by
  cases launch_launches session id directory with
  | @refused error tried spawns runs =>
      have inside : id < tried.tasks.length := spawns.tasks ▸ present
      rw [runs, finish_eq_moveTo, stage?_moveTo_self (by exact inside)] at here
      cases here
      cases young
  | @unfit fault tried spawns odd runs =>
      have inside : id < tried.tasks.length := spawns.tasks ▸ present
      rw [runs, finish_eq_moveTo, stage?_moveTo_self inside] at here
      cases here
      cases young
  | @hired new tried spawns runs =>
      have inside : id < tried.tasks.length := spawns.tasks ▸ present
      obtain ⟨process, rfl, recruit, grown⟩ := spawns.grown
      have known : tried.world.Knows process.pid := by
        have enlisted := World.process?_enlist numbered recruit.next
        obtain ⟨_, _, _, _, _, rfl, -, -⟩ := grown
        exact Option.isSome_iff_exists.mpr ⟨process, enlisted⟩
      have sole : tried.IsSoleReader id process.pid := by
        intro other standing different found read
        rw [stage?_of_tasks spawns.tasks] at found
        have old := reads other standing process.pid found read
        exact World.not_knows_next numbered (recruit.next ▸ old)
      have silent : (tried.world.errors process.pid).inOrder = [] := by
        rw [spawns.errors numbered]
        rfl
      have same : tried.handle.settings = session.handle.settings :=
        congrArg Handle.settings spawns.handle
      obtain ⟨later, there, detects⟩ :=
        detects_attach inside known sole (same.symm ▸ marked) some silent
      rw [runs] at here ⊢
      cases stage?_inj here there
      cases detects.young young
      exact detects

theorem detects_runAttempt (reads : session.ReadsKnown) (numbered : session.world.IsNumbered)
    (present : id < session.tasks.length)
    (marked : session.handle.settings.readyMarker = some letters) (some : letters.toList ≠ [])
    (here : (session.runAttempt id).stage? id = Option.some stage)
    (young : stage.young? = Option.some pid) :
    (session.runAttempt id).Detects letters.toList pid stage := by
  cases runAttempt_attempts session id with
  | reuses current runs =>
      let starting := session.become .starting
      have known : starting.ReadsKnown := reads
      rw [runs] at here ⊢
      exact detects_launch known numbered present marked some _ here young
  | @makes directory disk vacant made runs =>
      let starting := ((session.become .starting).onDisk disk).adopt directory
      have known : starting.ReadsKnown := reads
      rw [runs] at here ⊢
      exact detects_launch known numbered present marked some _ here young
  | refused vacant made runs =>
      rw [runs, finish_eq_moveTo, stage?_moveTo_self (by exact present)] at here
      cases here
      cases young
  | unfit vacant made odd runs =>
      rw [runs, finish_eq_moveTo, stage?_moveTo_self (by exact present)] at here
      cases here
      cases young

/-- Every attempt that waits for its process to become ready has found what its stage tells. -/
def HasDetected (session : Session) (marker : List Char) : Prop :=
  ∀ id stage pid, session.stage? id = some stage → stage.young? = some pid →
    session.Detects marker pid stage

theorem HasDetected.move (detected : session.HasDetected letters.toList)
    (stands : session.Stands phase) (alone : session.HasOneRelay)
    (marked : session.handle.settings.readyMarker = some letters) (some : letters.toList ≠ [])
    (move : Move) : (session.move move).HasDetected letters.toList := by
  intro id later pid here young
  have goes {earlier : Stage} {other : Pid} (found : session.stage? id = Option.some earlier)
      (youth : earlier.young? = Option.some other) :
      (session.move move).Detects letters.toList pid later := by
    obtain ⟨known, -⟩ := isSoleReader_of_young stands found youth
    obtain ⟨standing, there, detects⟩ :=
      (detected id earlier other found youth).move stands alone known marked some found move
    cases stage?_inj here there
    cases detects.young young
    exact detects
  rcases goesOn_of_young stands here young with before | ⟨moves, earlier, found, kind⟩
  · exact goes before young
  · rcases kind with rfl | youth
    · obtain ⟨ready, same⟩ := move_eq moves
      let queue := { session with ready := session.ready.erase id }
      have standing : queue.stage? id = Option.some .attempt := found
      have reads : queue.ReadsKnown := stands.readsKnown
      have begins : queue.resume id = queue.runAttempt id := by
        rw [resume_of_stage standing]
        split <;> rfl
      rw [same, begins] at here ⊢
      have there : (queue.runAttempt id).stage? id = Option.some later := here
      have detects := detects_runAttempt reads stands.numbered (lt_of_stage? standing) marked some
        there young
      exact detects.keep rfl rfl rfl
    · obtain ⟨other, current⟩ := Option.isSome_iff_exists.mp youth
      exact goes found current

end Births

section Runs

end Runs

end Session

end EmacsSession
