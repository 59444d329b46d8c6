/-
This file tells what a spawn does, and how an attempt and a call that evaluates a form go on from
it.
-/

import EmacsSession.Proofs.Session.Step

namespace EmacsSession

/-- What the standard input of a client is connected to: a pipe, unless there is no input. -/
def inputConnection : Value → Connection
  | .absent => .nothing
  | _ => .pipe

theorem inputConnection_eq (input : Value) :
    (if input.kind == .absent then .nothing else .pipe) = inputConnection input := by
  cases input <;> rfl

/-- A process that is the next one of a world, and has done nothing yet. -/
structure World.IsRecruit (world : World) (id : TaskId) (role : Role) (arguments : List String)
    (process : Process) : Prop where
  next : process.pid = firstPid + world.processes.length
  spawner : process.spawner = id
  role : process.role = role
  arguments : process.arguments = arguments
  alive : process.exitCode = none
  unheard : process.output = {}
  silent : process.errors = {}

namespace Session

/-- What a spawn does: a plan is used up, and there is one more process unless it is refused. -/
inductive Hiring (session : Session) (id : TaskId) (role : Role) (arguments : List String)
    (input output errors : Connection) : Except Fault Pid → Session → Prop
  | refused (fault : Fault) (plans : List Plan) :
      Hiring session id role arguments input output errors (.error fault)
        (({ session with world := { session.world with plans := plans } } : Session).note
          (.spawned none arguments input output errors))
  | hired (process : Process) (recruit : session.world.IsRecruit id role arguments process)
      (plans : List Plan) :
      Hiring session id role arguments input output errors (.ok process.pid)
        (({ session with world := { session.world.enlist process with plans := plans } } :
          Session).note (.spawned (some process.pid) arguments input output errors))

/-- A line is logged, and then a task spawns a process. -/
def SpawnsAs (session : Session) (id : TaskId) (role : Role) (arguments : List String)
    (input output errors : Connection) (result : Except Fault Pid) (after : Session) : Prop :=
  ∃ severity message,
    (session.log severity message).spawn id role arguments input output errors = (result, after)

/-- The daemon of an attempt is spawned. -/
abbrev SpawnsDaemon (session : Session) (id : TaskId) (directory : Path) :
    Except Fault Pid → Session → Prop :=
  session.SpawnsAs id (.daemon directory) (daemonArguments session.handle.settings directory)
    .nothing .nothing .pipe

/-- The client of a call that evaluates a form is spawned. -/
abbrev SpawnsClient (session : Session) (id : TaskId) (code : String) (input : Value) :
    Except Fault Pid → Session → Prop :=
  session.SpawnsAs id .client (clientArguments session.handle.settings code) (inputConnection input)
    .pipe .pipe

section Spawns

variable {session after : Session} {id : TaskId} {role : Role} {arguments : List String}
  {input output errors : Connection} {result : Except Fault Pid}

theorem spawn_hiring (session : Session) (id : TaskId) (role : Role) (arguments : List String)
    (input output errors : Connection) :
    session.Hiring id role arguments input output errors
      (session.spawn id role arguments input output errors).1
      (session.spawn id role arguments input output errors).2 := by
  rw [spawn, World.spawn]
  cases session.world.plans.head?.getD (.spawned {}) with
  | refused error => exact .refused (.system error) _
  | unfit fault => exact .refused fault _
  | spawned manner =>
      let pid := World.firstPid + session.world.processes.length
      let process : Process :=
        ⟨pid, id, role, arguments, manner, manner.connectsAtOnce, none, {}, {}⟩
      exact .hired process ⟨rfl, rfl, rfl, rfl, rfl, rfl, rfl⟩ _

theorem SpawnsAs.hiring
    (spawns : session.SpawnsAs id role arguments input output errors result after) :
    ∃ severity message,
      (session.log severity message).Hiring id role arguments input output errors result after := by
  obtain ⟨severity, message, spawned⟩ := spawns
  have hiring := spawn_hiring (session.log severity message) id role arguments input output errors
  rw [spawned] at hiring
  exact ⟨severity, message, hiring⟩

theorem SpawnsAs.handle
    (spawns : session.SpawnsAs id role arguments input output errors result after) :
    after.handle = session.handle := by
  obtain ⟨severity, message, hiring⟩ := spawns.hiring
  cases hiring <;> rfl

theorem SpawnsAs.tasks
    (spawns : session.SpawnsAs id role arguments input output errors result after) :
    after.tasks = session.tasks := by
  obtain ⟨severity, message, hiring⟩ := spawns.hiring
  cases hiring <;> rfl

end Spawns

/-- How a launch goes on from the spawn of its daemon. -/
inductive Launches (session : Session) (id : TaskId) (directory : Path) (after : Session) : Prop
  | refused {error : SystemError} {tried : Session}
      (spawns : session.SpawnsDaemon id directory (.error (.system error)) tried)
      (runs : after = (tried.become .stopped).finish id (.failed
        (.spawn (.daemon ((daemonArguments session.handle.settings directory).headD "")) error)))
  | unfit {fault : Fault} {tried : Session}
      (spawns : session.SpawnsDaemon id directory (.error fault) tried)
      (odd : ∀ error, fault ≠ .system error) (runs : after = tried.finish id (.failed fault))
  | hired {pid : Pid} {tried : Session} (spawns : session.SpawnsDaemon id directory (.ok pid) tried)
      (runs : after = tried.attach id pid)

theorem launch_launches (session : Session) (id : TaskId) (directory : Path) :
    session.Launches id directory (session.launch id directory) := by
  rw [launch]
  split
  next spawned => exact .refused ⟨_, _, spawned⟩ rfl
  next odd spawned => exact .unfit ⟨_, _, spawned⟩ odd rfl
  next spawned => exact .hired ⟨_, _, spawned⟩ rfl

/-- The session with another disk. -/
def onDisk (session : Session) (disk : Disk) : Session :=
  { session with world := { session.world with disk := disk } }

/-- An init directory was made, and is kept. -/
def adopt (session : Session) (directory : Path) : Session :=
  (session.withHandle fun handle => { handle with initDirectory := some directory }).note
    (.madeDirectory directory)

/-- How an attempt begins: with a launch, or with a failure to make the init directory. -/
inductive Attempts (session : Session) (id : TaskId) (after : Session) : Prop
  | reuses {directory : Path} (current : session.handle.initDirectory = some directory)
      (runs : after = (session.become .starting).launch id directory)
  | makes {directory : Path} {disk : Disk} (vacant : session.handle.initDirectory = none)
      (made : session.world.disk.makeInitDirectory session.handle.settings.root =
        (.ok directory, disk))
      (runs : after =
        (((session.become .starting).onDisk disk).adopt directory).launch id directory)
  | refused {error : SystemError} {disk : Disk} (vacant : session.handle.initDirectory = none)
      (made : session.world.disk.makeInitDirectory session.handle.settings.root =
        (.error (.system error), disk))
      (runs : after = (((session.become .starting).onDisk disk).become .stopped).finish id
        (.failed (.spawn (.initDirectory session.handle.settings.root.text) error)))
  | unfit {fault : Fault} {disk : Disk} (vacant : session.handle.initDirectory = none)
      (made : session.world.disk.makeInitDirectory session.handle.settings.root =
        (.error fault, disk))
      (odd : ∀ error, fault ≠ .system error)
      (runs : after = ((session.become .starting).onDisk disk).finish id (.failed fault))

theorem runAttempt_attempts (session : Session) (id : TaskId) :
    session.Attempts id (session.runAttempt id) := by
  rw [runAttempt]
  dsimp only
  split
  next directory current => exact .reuses current rfl
  next vacant =>
    split
    next directory succeeded => exact .makes vacant (Prod.ext succeeded rfl) rfl
    next error failed => exact .refused vacant (Prod.ext failed rfl) rfl
    next fault odd failed => exact .unfit vacant (Prod.ext failed rfl) odd rfl

/-- How a call that evaluates a form goes on when it is heard. -/
inductive Asks (session : Session) (id : TaskId) (form input : Value) (after : Session) : Prop
  | notStarted (idle : session.handle.status ≠ .running)
      (runs : after = session.finish id (.failed (.notStarted session.handle.settings.name)))
  | unprintable {kind : Kind} (running : session.handle.status = .running)
      (unprintable : form.print = .error kind)
      (runs : after = session.finish id (.failed (.unprintable kind)))
  | refused {code : String} {fault reported : Fault} {tried : Session}
      (running : session.handle.status = .running) (printed : form.print = .ok code)
      (spawns : session.SpawnsClient id code input (.error fault) tried)
      (runs : after = tried.finish id (.failed reported))
  | hired {code : String} {pid : Pid} {tried : Session}
      (running : session.handle.status = .running) (printed : form.print = .ok code)
      (spawns : session.SpawnsClient id code input (.ok pid) tried)
      (runs : after = tried.attachClient id pid input)

theorem runEvaluate_asks (session : Session) (id : TaskId) (form input : Value) :
    session.Asks id form input (session.runEvaluate id form input) := by
  rw [runEvaluate]
  dsimp only
  split
  next idle => exact .notStarted (by simpa using idle) rfl
  next notIdle =>
    have running : session.handle.status = .running := by simpa using notIdle
    simp only [inputConnection_eq]
    split
    next kind unprintable => exact .unprintable running unprintable rfl
    next code printed =>
      split
      next spawned => exact .refused running printed ⟨_, _, spawned⟩ rfl
      next spawned => exact .refused running printed ⟨_, _, spawned⟩ rfl
      next spawned => exact .hired running printed ⟨_, _, spawned⟩ rfl

/-- How a call goes on with its client: it waits for the pipes, or gives the input, or gives up. -/
inductive Attaches (session : Session) (id : TaskId) (pid : Pid) (input : Value)
    (after : Session) : Prop
  | waits (runs : after = session.moveTo id (.awaitClientSpawn pid input))
  | gives {octets : Option (List UInt8)} (read : inputOctets input = .ok octets)
      (runs : after = (session.note (.gaveInput pid octets)).moveTo id (.awaitAnswer pid))
  | abandons {fault : Fault} (unreadable : inputOctets input = .error fault)
      (runs : after = session.abandonClient id pid (.failed fault))

theorem attachClient_attaches (session : Session) (id : TaskId) (pid : Pid) (input : Value) :
    session.Attaches id pid input (session.attachClient id pid input) := by
  rw [attachClient]
  split
  next =>
    rw [giveInput]
    split
    next octets read => exact .gives read rfl
    next fault unreadable => exact .abandons unreadable rfl
  next => exact .waits rfl

end Session

end EmacsSession
