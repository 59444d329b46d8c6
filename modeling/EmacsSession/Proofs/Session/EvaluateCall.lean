/-
This file shows that a call that evaluates a form has its own client and leaves the handle as it is.
-/

import EmacsSession.Proofs.Session.Registry

namespace EmacsSession.Session

/-- A caller that asks for the evaluation of a form is heard by this move. -/
structure HearsEvaluation (session : Session) (id : TaskId) (form input : Value) (move : Move) :
    Prop where
  asks : session.stage? id = some (.evaluate form input)
  wanted : session.isFlagged id = false
  moves : session.mover move = some id

/-- What becomes of a caller that asks for an evaluation when it is heard: nothing is spawned unless
the daemon runs and the form can be printed, and then one spawn of a client is asked for. -/
structure Meets (session after : Session) (id : TaskId) (form input : Value) : Prop where
  notStarted : session.handle.status ≠ .running → after.books = session.books ∧
    after.stage? id = some (.ended (.failed (.notStarted session.handle.settings.name)))
  unprintable : session.handle.status = .running → ∀ kind, form.print = .error kind →
    after.books = session.books ∧ after.stage? id = some (.ended (.failed (.unprintable kind)))
  spawns : session.handle.status = .running → ∀ code, form.print = .ok code →
    ∃ result more, after.books.engagements = more ++ .spawned result
      (session.handle.settings.emacsclient ++
        ["--socket-name=" ++ session.handle.settings.name, "--eval", code])
      (inputConnection input) .pipe .pipe :: session.books.engagements ∧
        more.length ≤ 1 ∧ ∀ deed ∈ more, deed.party? = result

/-- The session in the course of a call that evaluates a form: what happened before the call, the
call, and what happened since. -/
def evaluating (start : Session) (before : List Move) (form input : Value) (since : List Move) :
    Session :=
  start.follow (before ++ .event (.evaluate form input) :: since)

/-- A call that evaluates a form is on its own. Its number is that of the next task when it is
made. -/
structure IsIsolated (start : Session) (before : List Move) (form input : Value)
    (since : List Move) (id : TaskId) : Prop where
  /-- The call is met as the state of the daemon and the form demand. -/
  met : ∀ earlier move later, since = earlier ++ move :: later →
    (start.evaluating before form input earlier).HearsEvaluation id form input move →
      (start.evaluating before form input earlier).Meets
        (start.evaluating before form input (earlier ++ [move])) id form input
  /-- Only then it may spawn a process. -/
  spawns : ∀ earlier move later, since = earlier ++ move :: later →
    (start.evaluating before form input (earlier ++ [move])).books.spawnedBy id ≠
        (start.evaluating before form input earlier).books.spawnedBy id →
      (start.evaluating before form input earlier).HearsEvaluation id form input move
  /-- It spawned nothing, or one client, which was given nothing yet, or the input. -/
  client : (start.evaluating before form input since).books.spawnedBy id = [] ∨
    ∃ pid given, Books.IsInput input given ∧
      (start.evaluating before form input since).books.Employs start.handle.settings id form input
        pid given
  /-- What it returns is all that its client ever wrote to its output. -/
  returns : ∀ text,
    (start.evaluating before form input since).ending? id = some (.returned text) →
      ∃ pid octets, input.HasOctets octets ∧
        (start.evaluating before form input since).books.Employs start.handle.settings id form
          input pid [octets] ∧
        ((start.evaluating before form input since).world.output pid).isClosed = true ∧
        text = some (String.ofList (Utf8.decode
          (start.printed pid (before ++ .event (.evaluate form input) :: since))))
  /-- It returns when its client has ended, however that ended. -/
  answers : ∀ earlier move later pid client, since = earlier ++ move :: later →
    (start.evaluating before form input earlier).stage? id = some (.awaitAnswer pid) →
    (start.evaluating before form input earlier).isFlagged id = false →
    (start.evaluating before form input earlier).mover move = some id →
    (start.evaluating before form input earlier).world.process? pid = some client →
    client.isComplete = true → client.fault? = none →
      ∃ text, (start.evaluating before form input (earlier ++ [move])).ending? id =
        some (.returned text)
  /-- The handle stays as it is when the call is made and whenever it goes on. -/
  keeps : (start.evaluating before form input []).handle = (start.follow before).handle ∧
    ∀ earlier move later, since = earlier ++ move :: later →
      (start.evaluating before form input earlier).mover move = some id →
        (start.evaluating before form input (earlier ++ [move])).handle =
          (start.evaluating before form input earlier).handle
  /-- It touches no process but its client. -/
  spares : ∀ earlier move later pid process, since = earlier ++ move :: later →
    (start.evaluating before form input earlier).mover move = some id →
    (start.evaluating before form input earlier).world.process? pid = some process →
    ¬ (start.evaluating before form input earlier).books.Owns id pid →
      (start.evaluating before form input (earlier ++ [move])).world.process? pid = some process

section Handle

variable {session : Session} {id : TaskId} {pid : Pid}

@[simp] theorem abandonClient_handle (ending : Ending) :
    (session.abandonClient id pid ending).handle = session.handle := by
  rw [abandonClient]
  split_ifs <;> rfl

@[simp] theorem attachClient_handle (input : Value) :
    (session.attachClient id pid input).handle = session.handle := by
  cases attachClient_attaches session id pid input with
  | waits runs => exact runs ▸ rfl
  | gives read runs => exact runs ▸ rfl
  | abandons unreadable runs => exact runs ▸ abandonClient_handle _

@[simp] theorem runEvaluate_handle (form input : Value) :
    (session.runEvaluate id form input).handle = session.handle := by
  cases runEvaluate_asks session id form input with
  | notStarted idle runs => exact runs ▸ rfl
  | unprintable running unprintable runs => exact runs ▸ rfl
  | refused running printed spawns runs => exact runs ▸ spawns.handle
  | hired running printed spawns runs =>
      exact runs ▸ (attachClient_handle input).trans spawns.handle

@[simp] theorem takeAnswer_handle : (session.takeAnswer id pid).handle = session.handle := by
  rw [takeAnswer]
  split
  next => rfl
  next =>
    split
    next => exact abandonClient_handle _
    next =>
      split
      next =>
        rw [answer]
        split <;> rfl
      next => rfl

/-- A turn of a caller that evaluates leaves the handle as it is. -/
theorem resume_handle {stage : Stage} (found : session.stage? id = some stage)
    (own : stage.isEvaluation ∨ stage.ending?.isSome) :
    (session.resume id).handle = session.handle := by
  rw [resume_of_stage found]
  cases stage with
  | evaluate form input => split <;> simp [cancelIn, proceed]
  | awaitClientSpawn pid input => split <;> simp [cancelIn, proceed]
  | awaitAnswer pid => split <;> simp [cancelIn, proceed]
  | awaitClientEnd pid ending =>
      split
      next => rfl
      next =>
        rw [proceed]
        split <;> rfl
  | ended ending => split <;> rfl
  | _ => rcases own with own | own <;> cases own

end Handle

section Hearing

variable {session after : Session} {id : TaskId} {pid : Pid} {form input : Value}

theorem engagements_attachClient (session : Session) (id : TaskId) (pid : Pid) (input : Value) :
    ∃ more, (session.attachClient id pid input).books.engagements =
      more ++ session.books.engagements ∧ more.length ≤ 1 ∧
        ∀ deed ∈ more, deed.party? = some pid := by
  cases attachClient_attaches session id pid input with
  | waits runs => exact runs ▸ ⟨[], rfl, by simp, by simp⟩
  | @gives octets read runs =>
      exact runs ▸ ⟨[.gaveInput pid octets], rfl, by simp, by simp [Deed.party?]⟩
  | abandons unreadable runs =>
      rw [runs, books_abandonClient]
      exact ⟨[], rfl, by simp, by simp⟩

theorem meets_runEvaluate (asks : session.stage? id = some (.evaluate form input)) :
    session.Meets (session.runEvaluate id form input) id form input := by
  have present := lt_of_stage? asks
  cases runEvaluate_asks session id form input with
  | notStarted idle runs =>
      rw [runs]
      exact ⟨fun _ => ⟨rfl, stage?_moveTo_self present⟩, fun running => absurd running idle,
        fun running => absurd running idle⟩
  | unprintable running unprintable runs =>
      rw [runs]
      refine ⟨absurd running, fun _ kind same => ?_, fun _ code printed => ?_⟩
      · cases unprintable.symm.trans same
        exact ⟨rfl, stage?_moveTo_self present⟩
      · cases unprintable.symm.trans printed
  | refused running printed spawns runs =>
      rw [runs]
      refine ⟨absurd running, fun _ kind unprintable => ?_, fun _ code same => ?_⟩
      · cases printed.symm.trans unprintable
      · cases printed.symm.trans same
        have entered := congrArg Books.engagements spawns.books_refused
        exact ⟨none, [], entered, by simp, by simp⟩
  | @hired code pid tried running printed spawns runs =>
      rw [runs]
      refine ⟨absurd running, fun _ kind unprintable => ?_, fun _ code same => ?_⟩
      · cases printed.symm.trans unprintable
      · cases printed.symm.trans same
        obtain ⟨more, engaged, short, own⟩ := engagements_attachClient tried id pid input
        rw [spawns.books_hired.2] at engaged
        exact ⟨some pid, more, engaged, short, own⟩

theorem meets_of_move {move : Move} (hears : session.HearsEvaluation id form input move) :
    session.Meets (session.move move) id form input := by
  obtain ⟨asks, wanted, moves⟩ := hears
  obtain ⟨ready, same⟩ := turn_eq moves asks wanted
  let queue := { session with ready := session.ready.erase id }
  have standing : queue.stage? id = some (.evaluate form input) := asks
  obtain ⟨notStarted, unprintable, spawns⟩ := meets_runEvaluate standing
  rw [same]
  exact ⟨notStarted, unprintable, spawns⟩

theorem badges_attachClient (session : Session) (id : TaskId) (pid : Pid) (input : Value) :
    (session.attachClient id pid input).books.badges = session.books.badges := by
  cases attachClient_attaches session id pid input with
  | waits runs => exact runs ▸ rfl
  | gives read runs => exact runs ▸ rfl
  | abandons unreadable runs => rw [runs, books_abandonClient]

/-- A caller that evaluates spawns nothing but when it is heard. -/
theorem hears_of_spawn {settings : Settings} {move : Move} (moves : session.mover move = some id)
    (served : session.IsServed settings id form input)
    (spawned : (session.move move).books.spawnedBy id ≠ session.books.spawnedBy id) :
    session.HearsEvaluation id form input move := by
  obtain ⟨stage, found, serves⟩ := served
  obtain ⟨ready, same⟩ := move_eq moves
  let queue := { session with ready := session.ready.erase id }
  have standing : queue.stage? id = some stage := found
  have changes : (queue.resume id).books.badges ≠ session.books.badges := by
    intro badges
    apply spawned
    rw [same]
    exact congrArg (List.filter fun badge => badge.spawner == id) badges
  rw [resume_of_stage standing] at changes
  have kept {after : Session} (books : after.books = queue.books) :
      after.books.badges = session.books.badges := congrArg Books.badges books
  cases serves with
  | asks none =>
      cases flagged : session.isFlagged id with
      | false => exact ⟨found, flagged, moves⟩
      | true =>
          rw [if_pos (show queue.isFlagged id = true from flagged)] at changes
          exact absurd rfl changes
  | connects client =>
      split at changes
      next => exact absurd (kept (books_abandonClient _)) changes
      next => exact absurd (badges_attachClient queue id _ input) changes
  | waits read client =>
      split at changes
      next => exact absurd (kept (books_abandonClient _)) changes
      next => exact absurd (kept books_takeAnswer) changes
  | parts isInput client silent =>
      split at changes
      next => exact absurd rfl changes
      next =>
        rw [proceed] at changes
        split at changes <;> exact absurd rfl changes
  | declined none silent => split at changes <;> exact absurd rfl changes
  | parted isInput client silent => split at changes <;> exact absurd rfl changes
  | answered read client closed => split at changes <;> exact absurd rfl changes

/-- A client that has ended gives the answer, whatever its exit code and its diagnostics are. -/
theorem returned_of_move {move : Move} (waits : session.stage? id = some (.awaitAnswer pid))
    (wanted : session.isFlagged id = false) (moves : session.mover move = some id)
    {client : Process} (found : session.world.process? pid = some client)
    (complete : client.isComplete = true) (readable : client.fault? = none) :
    ∃ text, (session.move move).ending? id = some (.returned text) := by
  obtain ⟨ready, same⟩ := turn_eq moves waits wanted
  let queue := { session with ready := session.ready.erase id }
  have known : queue.world.process? pid = some client := found
  have answers : queue.proceed id (.awaitAnswer pid) = queue.answer id client := by
    change queue.takeAnswer id pid = queue.answer id client
    rw [takeAnswer, known]
    dsimp only
    rw [readable]
    exact if_pos complete
  have present : id < queue.tasks.length := lt_of_stage? waits
  refine ⟨some (String.ofList (Utf8.decode client.output.unread)), ?_⟩
  rw [same, answers]
  apply ending?_eq_some.mpr
  rw [answer]
  split
  next => exact stage?_moveTo_self present
  next => exact stage?_moveTo_self present

end Hearing

section Sparing

variable {session : Session} {id : TaskId} {pid other : Pid} {process : Process}

theorem process?_abandonClient (found : session.world.process? other = some process)
    (different : other ≠ pid) (ending : Ending) :
    (session.abandonClient id pid ending).world.process? other = some process := by
  have killed : (session.kill pid).world.process? other = some process := by
    have keeps (process : Process) : process.kill.pid = process.pid :=
      (Process.kill_continues process).pid
    rw [kill]
    change (session.world.alter pid Process.kill).process? other = some process
    rw [World.process?_alter keeps, found]
    simp [different]
  rw [abandonClient]
  split_ifs
  · exact found
  · exact killed
  · exact killed

theorem process?_attachClient (found : session.world.process? other = some process)
    (different : other ≠ pid) (input : Value) :
    (session.attachClient id pid input).world.process? other = some process := by
  cases attachClient_attaches session id pid input with
  | waits runs => exact runs ▸ found
  | gives read runs => exact runs ▸ found
  | abandons unreadable runs => exact runs ▸ process?_abandonClient found different _

theorem process?_takeAnswer (found : session.world.process? other = some process)
    (different : other ≠ pid) :
    (session.takeAnswer id pid).world.process? other = some process := by
  rw [takeAnswer]
  split
  next => exact found
  next =>
    split
    next => exact process?_abandonClient found different _
    next =>
      split
      next =>
        rw [answer]
        split <;> exact found
      next => exact found

theorem SpawnsAs.process? {role : Role} {arguments : List String}
    {input output errors : Connection} {result : Except Fault Pid}
    (spawns : session.SpawnsAs id role arguments input output errors result after)
    (found : session.world.process? other = some process) :
    after.world.process? other = some process := by
  obtain ⟨severity, message, hiring⟩ := spawns.hiring
  cases hiring with
  | refused fault plans => exact found
  | hired recruit recruited plans =>
      rw [World.process?] at found
      simp [note, World.process?, World.enlist, List.find?_append, found]

theorem pid_lt (sound : session.books.IsSound)
    (found : session.world.process? other = some process) :
    other < World.firstPid + session.books.badges.length := by
  have member : process.badge ∈ session.books.badges :=
    List.mem_map_of_mem (List.mem_of_find?_eq_some found)
  have before := sound.lt member
  rwa [show process.badge.pid = other from World.process?_pid found] at before

theorem process?_runEvaluate (sound : session.books.IsSound)
    (found : session.world.process? other = some process) (form input : Value) :
    (session.runEvaluate id form input).world.process? other = some process := by
  cases runEvaluate_asks session id form input with
  | notStarted idle runs => exact runs ▸ found
  | unprintable running unprintable runs => exact runs ▸ found
  | refused running printed spawns runs => exact runs ▸ spawns.process? found
  | @hired code pid tried running printed spawns runs =>
      have different : other ≠ pid := by
        rw [spawns.books_hired.1]
        exact Nat.ne_of_lt (pid_lt sound found)
      exact runs ▸ process?_attachClient (spawns.process? found) different input

/-- A caller that evaluates touches no process but its client. -/
theorem process?_of_turn {settings : Settings} {form input : Value} {move : Move}
    (sound : session.books.IsSound) (moves : session.mover move = some id)
    (served : session.IsServed settings id form input)
    (found : session.world.process? other = some process)
    (foreign : ¬ session.books.Owns id other) :
    (session.move move).world.process? other = some process := by
  obtain ⟨stage, standing, serves⟩ := served
  obtain ⟨ready, same⟩ := move_eq moves
  let queue := { session with ready := session.ready.erase id }
  have here : queue.stage? id = some stage := standing
  have known : queue.world.process? other = some process := found
  have numbered : queue.books.IsSound := sound
  have apart {pid : Pid} (waits : stage.client? = some pid) : other ≠ pid := by
    rintro rfl
    exact foreign (serves.owns waits)
  rw [same]
  change (queue.resume id).world.process? other = some process
  rw [resume_of_stage here]
  cases serves with
  | asks none =>
      split
      next => exact known
      next => exact process?_runEvaluate numbered known form input
  | connects client =>
      split
      next => exact process?_abandonClient known (apart rfl) _
      next => exact process?_attachClient known (apart rfl) input
  | waits read client =>
      split
      next => exact process?_abandonClient known (apart rfl) _
      next => exact process?_takeAnswer known (apart rfl)
  | parts isInput client silent =>
      split
      next => exact known
      next =>
        rw [proceed]
        split <;> exact known
  | declined none silent => split <;> exact known
  | parted isInput client silent => split <;> exact known
  | answered read client closed => split <;> exact known

end Sparing

section Runs

variable {start session : Session} {phase : Phase} {id : TaskId} {form input : Value}

theorem IsRegistered.follow (registered : session.IsRegistered) (stands : session.Stands phase)
    (moves : List Move) : (session.follow moves).IsRegistered :=
  keep_of_moves IsRegistered stands registered (fun standing held => held.move standing) moves

theorem settings_of_follow (stands : session.Stands phase) (moves : List Move) :
    (session.follow moves).handle.settings = session.handle.settings :=
  keep_of_moves (fun later => later.handle.settings = session.handle.settings) stands rfl
    (fun standing same move => (settings_of_move standing move).trans same) moves

theorem IsServed.follow {settings : Settings}
    (served : session.IsServed settings id form input) (registered : session.IsRegistered)
    (stands : session.Stands phase) (same : session.handle.settings = settings)
    (moves : List Move) : (session.follow moves).IsServed settings id form input := by
  let holds (later : Session) := later.IsServed settings id form input ∧ later.IsRegistered ∧
    later.handle.settings = settings
  have kept : holds (session.follow moves) :=
    keep_of_moves holds stands ⟨served, registered, same⟩ (fun standing held move =>
      ⟨held.1.move held.2.1 standing held.2.2 move, held.2.1.move standing move,
        (settings_of_move standing move).trans held.2.2⟩) moves
  exact kept.1

/-- The output of a process goes on by what the process writes to it. -/
theorem extends_of_move (registered : session.IsRegistered) (move : Move) (pid : Pid) :
    Extends (session.world.output pid) ((session.move move).world.output pid)
      (session.printedBy pid move) := by
  cases moves : session.mover move with
  | some id =>
      have output : (session.move move).world.output = session.world.output :=
        (entries_of_turn registered moves).output
      have silent : session.printedBy pid move = [] := by
        cases move with
        | turn other => rfl
        | event event => cases event <;> first | rfl | cases moves
      rw [output, silent]
      exact .refl _
  | none =>
      cases move with
      | turn other =>
          rw [move_of_idle moves]
          exact .refl _
      | event event => exact extends_receive moves pid

theorem unread_of_follow (registered : session.IsRegistered) (stands : session.Stands phase)
    (moves : List Move) (pid : Pid) :
    ((session.follow moves).world.output pid).unread =
      (session.world.output pid).unread ++ session.printed pid moves := by
  induction moves generalizing session phase with
  | nil => exact (List.append_nil _).symm
  | cons move moves inductionHypothesis =>
      obtain ⟨next, standing⟩ := stands.move move
      have rest := inductionHypothesis (registered.move stands move) standing
      rw [(extends_of_move registered move pid).unread, List.append_assoc] at rest
      exact rest

theorem handle_of_move {settings : Settings} {move : Move} (moves : session.mover move = some id)
    (served : session.IsServed settings id form input) :
    (session.move move).handle = session.handle := by
  obtain ⟨stage, found, serves⟩ := served
  obtain ⟨ready, same⟩ := move_eq moves
  let queue := { session with ready := session.ready.erase id }
  have standing : queue.stage? id = some stage := found
  have kept : (queue.resume id).handle = session.handle := by
    apply resume_handle standing
    cases serves <;> first | exact .inl rfl | exact .inr rfl
  rw [same]
  exact kept

/-- A call that was just made has spawned nothing. -/
theorem isServed_of_call (registered : session.IsRegistered) (form input : Value) :
    (session.move (.event (.evaluate form input))).IsServed session.handle.settings
      session.tasks.length form input := by
  refine ⟨.evaluate form input, stage?_begin_self, .asks ?_⟩
  change session.books.spawnedBy session.tasks.length = []
  rw [Books.spawnedBy, List.filter_eq_nil_iff]
  intro badge member
  simpa using Nat.ne_of_lt (registered.begun badge member)

/-- What others do spawns nothing for a task. -/
theorem spawnedBy_of_move {move : Move} (registered : session.IsRegistered)
    (other : session.mover move ≠ some id) :
    (session.move move).books.spawnedBy id = session.books.spawnedBy id := by
  cases moves : session.mover move with
  | some mover =>
      have different : id ≠ mover := fun same => other (same ▸ moves)
      exact (keeps_of_turn registered moves different).spawned
  | none =>
      cases move with
      | turn mover => rw [move_of_idle moves]
      | event event => exact (keeps_of_event moves id).spawned

theorem evaluating_concat (since : List Move) (move : Move) (before : List Move) :
    start.evaluating before form input (since ++ [move]) =
      (start.evaluating before form input since).move move := by
  rw [evaluating, evaluating, ← follow_concat, List.append_assoc, List.cons_append]

end Runs

/-- Whatever happens in a session, each call that evaluates a form spawns at most its own client,
returns what that wrote, and leaves the handle as it is. -/
theorem evaluate_isIsolated (settings : Settings) (tree : Tree) (before since : List Move)
    (form input : Value) :
    (fresh settings tree).IsIsolated before form input since
      ((fresh settings tree).follow before).tasks.length := by
  generalize begun : fresh settings tree = start
  have stands : start.Stands .resting := begun ▸ fresh_stands settings tree
  have registered : start.IsRegistered := begun ▸ fresh_isRegistered settings tree
  have standing (earlier : List Move) :
      ∃ phase, (start.evaluating before form input earlier).Stands phase := stands.follow _
  have registers (earlier : List Move) :
      (start.evaluating before form input earlier).IsRegistered := registered.follow stands _
  generalize number : (start.follow before).tasks.length = id
  have served (earlier : List Move) : (start.evaluating before form input earlier).IsServed
      start.handle.settings id form input := by
    obtain ⟨phase, there⟩ := stands.follow before
    obtain ⟨next, called⟩ := there.move (.event (.evaluate form input))
    have known := registered.follow stands before
    have calls := isServed_of_call known form input
    rw [settings_of_follow stands, number] at calls
    rw [evaluating, follow_append]
    exact calls.follow (known.move there _) called
      ((settings_of_move there _).trans (settings_of_follow stands before)) earlier
  constructor
  · intro earlier move later _ hears
    rw [evaluating_concat]
    exact meets_of_move hears
  · intro earlier move later _ spawned
    rw [evaluating_concat] at spawned
    have moves : (start.evaluating before form input earlier).mover move = some id := by
      by_contra other
      exact spawned (spawnedBy_of_move (registers earlier) other)
    exact hears_of_spawn moves (served earlier) spawned
  · obtain ⟨stage, -, serves⟩ := served since
    cases serves with
    | asks none => exact .inl none
    | connects client => exact .inr ⟨_, _, .inl rfl, client⟩
    | waits read client => exact .inr ⟨_, _, .inr ⟨_, read, rfl⟩, client⟩
    | parts isInput client silent => exact .inr ⟨_, _, isInput, client⟩
    | declined none silent => exact .inl none
    | parted isInput client silent => exact .inr ⟨_, _, isInput, client⟩
    | answered read client closed => exact .inr ⟨_, _, .inr ⟨_, read, rfl⟩, client⟩
  · intro text returned
    obtain ⟨stage, found, serves⟩ := served since
    cases stage?_inj found (ending?_eq_some.mp returned)
    cases serves with
    | declined none silent => cases silent
    | parted isInput client silent => cases silent
    | @answered pid octets read client closed =>
        refine ⟨pid, octets, read, client, closed, ?_⟩
        have wrote := unread_of_follow registered stands
          (before ++ .event (.evaluate form input) :: since) pid
        have silent : (start.world.output pid).unread = [] := begun ▸ rfl
        rw [silent, List.nil_append] at wrote
        rw [← wrote]
        rfl
  · intro earlier move later pid client _ waits wanted moves found complete readable
    rw [evaluating_concat]
    exact returned_of_move waits wanted moves found complete readable
  · refine ⟨?_, fun earlier move later _ moves => ?_⟩
    · rw [evaluating, follow_concat]
      rfl
    · rw [evaluating_concat]
      exact handle_of_move moves (served earlier)
  · intro earlier move later pid process _ moves found foreign
    rw [evaluating_concat]
    exact process?_of_turn (registers earlier).sound moves (served earlier) found foreign

end EmacsSession.Session
