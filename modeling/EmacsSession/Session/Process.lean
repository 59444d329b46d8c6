/-
This file models the processes that a session spawns.
-/

import EmacsSession.Session.Disk

namespace EmacsSession

/-- The number of a process. -/
abbrev Pid := Nat

/-- The number of a task. -/
abbrev TaskId := Nat

/-- The octets that a process writes to a pipe. -/
structure Stream where
  /-- The octets that are written and not read yet. -/
  unread : List UInt8 := []
  /-- The chunks that were read, last one first. -/
  chunks : List (List UInt8) := []
  /-- Nothing more will be written. -/
  isClosed : Bool := false
  /-- Reading is refused from now on. -/
  fault : Option SystemError := none

namespace Stream

/-- A reader finds octets, the end, or a refusal. -/
def isReadable (stream : Stream) : Bool :=
  !stream.unread.isEmpty || stream.isClosed || stream.fault.isSome

/-- More octets are written, unless the stream is closed. -/
def write (stream : Stream) (octets : List UInt8) : Stream :=
  if stream.isClosed then stream else { stream with unread := stream.unread ++ octets }

/-- Nothing more is written. -/
def close (stream : Stream) : Stream :=
  { stream with isClosed := true }

/-- Reading is refused. -/
def breakOff (error : SystemError) (stream : Stream) : Stream :=
  { stream with fault := some error }

/-- The largest chunk that is read at once. -/
def chunkSize : Nat := 4096

/-- The octets in chunks of the given size, of which only the last one may be smaller. The count of
octets bounds the chunks. -/
def cut (size : Nat) : Nat → List UInt8 → List (List UInt8)
  | 0, _ => []
  | _ + 1, [] => []
  | count + 1, octets => octets.take size :: cut size count (octets.drop size)

/-- The chunks in which the unread octets are read. -/
def coming (stream : Stream) : List (List UInt8) :=
  cut chunkSize stream.unread.length stream.unread

/-- The stream after the first chunks were read and the others were left. -/
def afterReading (stream : Stream) (taken left : List (List UInt8)) : Stream :=
  { stream with unread := left.flatten, chunks := taken.reverse ++ stream.chunks }

end Stream

/-- What the request to terminate does to a process. -/
inductive Termination where
  /-- The process ends. -/
  | obeyed
  /-- The process goes on. -/
  | ignored
  /-- The process has just ended, and the request does not find it. -/
  | missed
  deriving DecidableEq, Repr

/-- How a process takes signals. -/
structure Manner where
  termination : Termination := .obeyed
  /-- A process that is killed ends at once, or else some time later. -/
  diesAtOnce : Bool := true
  /-- The pipes of a process are connected at once, or else some time later. -/
  connectsAtOnce : Bool := true
  deriving DecidableEq, Repr

/-- What becomes of a spawn. -/
inductive Plan where
  | refused (error : SystemError)
  /-- The arguments are such that the operating system is not even asked. -/
  | unfit (fault : Fault)
  | spawned (manner : Manner)

/-- The two sorts of processes: a daemon, which has an init directory, and its clients. -/
inductive Role where
  | daemon (directory : Path)
  | client
  deriving DecidableEq, Repr

/-- A spawned process. -/
structure Process where
  pid : Pid
  /-- The task that spawned the process. -/
  spawner : TaskId
  role : Role
  arguments : List String
  manner : Manner
  /-- The pipes are connected, and who spawned the process goes on. -/
  isConnected : Bool
  exitCode : Option Int := none
  output : Stream := {}
  errors : Stream := {}

namespace Process

/-- The process ends, unless it has ended before. -/
def exit (code : Int) (process : Process) : Process :=
  { process with exitCode := some (process.exitCode.getD code) }

/-- The process is asked to terminate. -/
def terminate (process : Process) : Process :=
  match process.manner.termination with
  | .ignored => process
  | _ => process.exit (-15)

/-- The process is killed. -/
def kill (process : Process) : Process :=
  if process.manner.diesAtOnce then process.exit (-9) else process

/-- The process has ended, and all that it wrote is there. -/
def isComplete (process : Process) : Bool :=
  process.exitCode.isSome && process.output.isClosed && process.errors.isClosed

/-- The refusal to read what the process writes, if there is one. -/
def fault? (process : Process) : Option SystemError :=
  process.output.fault <|> process.errors.fault

end Process

/-- What surrounds a session: the disk, the processes, and what becomes of the coming spawns. -/
structure World where
  disk : Disk
  plans : List Plan := []
  processes : List Process := []

namespace World

/-- The number of the first process. -/
def firstPid : Pid := 1001

/-- The process of a number. -/
def process? (world : World) (pid : Pid) : Option Process :=
  world.processes.find? fun process => process.pid == pid

/-- A change of one process. -/
def alter (world : World) (pid : Pid) (change : Process → Process) : World :=
  { world with
    processes := world.processes.map fun process =>
      if process.pid == pid then change process else process }

/-- The exit code of a process that has ended. -/
def exitCode? (world : World) (pid : Pid) : Option Int :=
  (world.process? pid).bind Process.exitCode

/-- The process has ended. -/
def hasExited (world : World) (pid : Pid) : Bool :=
  (world.exitCode? pid).isSome

/-- The pipes of the process are connected. -/
def isConnected (world : World) (pid : Pid) : Bool :=
  (world.process? pid).any Process.isConnected

/-- The pipe for diagnostics of a process. -/
def errors (world : World) (pid : Pid) : Stream :=
  match world.process? pid with
  | some process => process.errors
  | none => {}

/-- A spawn as it is planned; without a plan it succeeds. Numbers are given in order. -/
def spawn (world : World) (spawner : TaskId) (role : Role) (arguments : List String) :
    Except Fault Pid × World :=
  let plan := world.plans.head?.getD (.spawned {})
  let world := { world with plans := world.plans.tail }
  match plan with
  | .refused error => (.error (.system error), world)
  | .unfit fault => (.error fault, world)
  | .spawned manner =>
      let pid := firstPid + world.processes.length
      let process : Process :=
        ⟨pid, spawner, role, arguments, manner, manner.connectsAtOnce, none, {}, {}⟩
      (.ok pid, { world with processes := world.processes ++ [process] })

end World

end EmacsSession
