/-
This file shows what changes in the processes around a session, and what stays.
-/

import Mathlib.Data.List.Nodup
import EmacsSession.Proofs.Readiness

namespace EmacsSession

/-- The process is a daemon. -/
def Process.isDaemon (process : Process) : Bool :=
  match process.role with
  | .daemon _ => true
  | .client => false

/-- A process after something happened to it: it is the same process, and its end and that of its
diagnostics are final. -/
structure Process.Lasts (before after : Process) : Prop where
  pid : after.pid = before.pid
  role : after.role = before.role
  ended : ∀ code, before.exitCode = some code → after.exitCode = some code
  closed : before.errors.isClosed = true → after.errors.isClosed = true
  broken : before.errors.fault.isSome = true → after.errors.fault.isSome = true

/-- A process after something happened to it that is no reading: what was read from it stays, and
nothing comes behind the end of its diagnostics. -/
structure Process.Continues (before after : Process) : Prop extends before.Lasts after where
  chunks : after.errors.chunks = before.errors.chunks
  settled : before.errors.isClosed = true → after.errors.unread = before.errors.unread

namespace Process

theorem Lasts.refl (process : Process) : process.Lasts process :=
  ⟨rfl, rfl, fun _ same => same, id, id⟩

theorem Continues.refl (process : Process) : process.Continues process :=
  ⟨.refl process, rfl, fun _ => rfl⟩

theorem Lasts.isDaemon {before after : Process} (lasts : before.Lasts after) :
    after.isDaemon = before.isDaemon := by
  rw [Process.isDaemon, Process.isDaemon, lasts.role]

theorem exit_continues (code : Int) (process : Process) :
    process.Continues (process.exit code) :=
  ⟨⟨rfl, rfl, fun _ same => by simp [exit, same], id, id⟩, rfl, fun _ => rfl⟩

theorem terminate_continues (process : Process) : process.Continues process.terminate := by
  rw [terminate]
  split
  · exact .refl process
  · exact exit_continues _ process

theorem kill_continues (process : Process) : process.Continues process.kill := by
  rw [kill]
  split
  · exact exit_continues _ process
  · exact .refl process

theorem writeErrors_continues (octets : List UInt8) (process : Process) :
    process.Continues { process with errors := process.errors.write octets } := by
  refine ⟨⟨rfl, rfl, fun _ same => same, ?_, ?_⟩, ?_, ?_⟩ <;>
    simp only [Stream.write] <;> split <;> simp_all

theorem closeErrors_continues (process : Process) :
    process.Continues { process with errors := process.errors.close } :=
  ⟨⟨rfl, rfl, fun _ same => same, fun _ => rfl, id⟩, rfl, fun _ => rfl⟩

theorem breakErrors_continues (error : SystemError) (process : Process) :
    process.Continues { process with errors := process.errors.breakOff error } :=
  ⟨⟨rfl, rfl, fun _ same => same, id, fun _ => rfl⟩, rfl, fun _ => rfl⟩

/-- What is neither about the end of a process nor about its diagnostics is no reading of them. -/
theorem Continues.of_errors {before after : Process} (pid : after.pid = before.pid)
    (role : after.role = before.role) (exitCode : after.exitCode = before.exitCode)
    (errors : after.errors = before.errors) : before.Continues after := by
  refine ⟨⟨pid, role, fun _ same => exitCode.trans same, ?_, ?_⟩, ?_, fun _ => ?_⟩ <;>
    simp [errors]

theorem read_lasts (taken left : List (List UInt8)) (process : Process) :
    process.Lasts { process with errors := process.errors.afterReading taken left } :=
  ⟨rfl, rfl, fun _ same => same, id, id⟩

end Process

namespace World

/-- The processes have numbers in the order in which they were spawned. -/
def IsNumbered (world : World) : Prop :=
  world.processes.map Process.pid = List.range' firstPid world.processes.length

/-- The daemon that was spawned last. -/
def latest? (world : World) : Option Process :=
  (world.processes.filter Process.isDaemon).getLast?

/-- The number of the daemon that was spawned last. -/
def latestPid? (world : World) : Option Pid :=
  world.latest?.map Process.pid

/-- The number is one of a process. -/
def Knows (world : World) (pid : Pid) : Prop :=
  (world.process? pid).isSome

/-- The diagnostics of a process have come to their end, or reading them is refused. -/
def IsOver (world : World) (pid : Pid) : Prop :=
  (world.errors pid).isClosed ∨ (world.errors pid).fault.isSome

/-- The diagnostics of a process that is not known have not come to their end. -/
theorem IsOver.knows {world : World} {pid : Pid} (finished : world.IsOver pid) :
    ∃ process, world.process? pid = some process ∧
      (process.errors.isClosed ∨ process.errors.fault.isSome) := by
  rw [IsOver, errors] at finished
  cases found : world.process? pid with
  | none => simp [found] at finished
  | some process => exact ⟨process, rfl, by simpa [found] using finished⟩

theorem process?_pid {world : World} {pid : Pid} {process : Process}
    (found : world.process? pid = some process) : process.pid = pid := by
  simpa using List.find?_some found

theorem IsNumbered.process? {world : World} (numbered : world.IsNumbered) {process : Process}
    (member : process ∈ world.processes) : world.process? process.pid = some process := by
  have distinct : (world.processes.map Process.pid).Nodup := by
    rw [numbered]
    exact List.nodup_range'
  obtain ⟨found, same⟩ : ∃ found, world.process? process.pid = some found :=
    Option.isSome_iff_exists.mp (List.find?_isSome.mpr ⟨process, member, by simp⟩)
  rw [same, List.inj_on_of_nodup_map distinct (List.mem_of_find?_eq_some same) member
    (process?_pid same)]

theorem IsNumbered.latest {world : World} (numbered : world.IsNumbered) {pid : Pid}
    (latest : world.latestPid? = some pid) :
    ∃ process, world.latest? = some process ∧ process.pid = pid ∧
      world.process? pid = some process := by
  obtain ⟨process, last, same⟩ := Option.map_eq_some_iff.mp latest
  have member : process ∈ world.processes :=
    List.mem_of_mem_filter (List.mem_of_getLast? last)
  exact ⟨process, last, same, same ▸ numbered.process? member⟩

theorem IsNumbered.lt {world : World} (numbered : world.IsNumbered) {pid : Pid}
    (known : world.Knows pid) : pid < firstPid + world.processes.length := by
  obtain ⟨process, found⟩ := Option.isSome_iff_exists.mp known
  have member : pid ∈ world.processes.map Process.pid :=
    List.mem_map.mpr ⟨process, List.mem_of_find?_eq_some found, process?_pid found⟩
  rw [numbered, List.mem_range'_1] at member
  exact member.2

section Alter

variable {world : World} {pid : Pid} {change : Process → Process}

/-- What a change keeps of a process, the change of one process keeps of all. -/
theorem view_comp_alter {View : Type} {view : Process → View}
    (keeps : ∀ process, view (change process) = view process) :
    (view ∘ fun process => if process.pid == pid then change process else process) = view := by
  funext process
  simp only [Function.comp_apply]
  split
  · exact keeps process
  · rfl

theorem process?_alter (keeps : ∀ process, (change process).pid = process.pid) (other : Pid) :
    (world.alter pid change).process? other =
      (world.process? other).map fun process =>
        if other = pid then change process else process := by
  have same : (fun process : Process => process.pid == other) ∘
      (fun process => if process.pid == pid then change process else process) =
      fun process => process.pid == other :=
    view_comp_alter fun process => by rw [keeps]
  rw [process?, process?, alter, List.find?_map, same]
  apply Option.map_congr
  intro process found
  have number : process.pid = other := @process?_pid world _ _ found
  simp [number]

theorem IsNumbered.alter (numbered : world.IsNumbered)
    (keeps : ∀ process, (change process).pid = process.pid) :
    (world.alter pid change).IsNumbered := by
  rw [IsNumbered, World.alter, List.map_map, view_comp_alter keeps, List.length_map]
  exact numbered

theorem latestPid?_alter (keeps : ∀ process, (change process).pid = process.pid)
    (role : ∀ process, (change process).isDaemon = process.isDaemon) :
    (world.alter pid change).latestPid? = world.latestPid? := by
  simp only [latestPid?, latest?, World.alter, List.filter_map, view_comp_alter role,
    List.getLast?_map, Option.map_map, view_comp_alter keeps]

theorem errors_alter (keeps : ∀ process, (change process).pid = process.pid) (other : Pid)
    {View : Type} (view : Stream → View)
    (same : ∀ process, view (change process).errors = view process.errors) :
    view ((world.alter pid change).errors other) = view (world.errors other) := by
  rw [errors, errors, process?_alter keeps]
  cases world.process? other with
  | none => rfl
  | some process =>
      simp only [Option.map_some]
      split <;> simp [same]

theorem errors_alter_of_ne (keeps : ∀ process, (change process).pid = process.pid) {other : Pid}
    (different : other ≠ pid) : (world.alter pid change).errors other = world.errors other := by
  rw [errors, errors, process?_alter keeps]
  cases world.process? other <;> simp [different]

theorem errors_alter_self (keeps : ∀ process, (change process).pid = process.pid)
    (known : world.Knows pid) :
    ∃ process, world.process? pid = some process ∧ world.errors pid = process.errors ∧
      (world.alter pid change).errors pid = (change process).errors := by
  obtain ⟨process, found⟩ := Option.isSome_iff_exists.mp known
  refine ⟨process, found, ?_, ?_⟩
  · rw [errors, found]
  · rw [errors, process?_alter keeps, found]
    simp

theorem knows_alter (keeps : ∀ process, (change process).pid = process.pid) (other : Pid) :
    (world.alter pid change).Knows other ↔ world.Knows other := by
  simp [Knows, process?_alter keeps]

/-- A process that is known before a change is known after it. -/
theorem process?_alter_lasts (lasts : ∀ process : Process, process.Lasts (change process))
    {other : Pid} {process : Process} (found : world.process? other = some process) :
    ∃ later, (world.alter pid change).process? other = some later ∧ process.Lasts later := by
  rw [process?_alter (fun process => (lasts process).pid), found]
  refine ⟨_, rfl, ?_⟩
  split
  next => exact lasts process
  next => exact .refl process

end Alter

/-- The world with one more process. -/
def enlist (world : World) (process : Process) : World :=
  { world with processes := world.processes ++ [process] }

section Enlist

variable {world : World} {process : Process}

theorem IsNumbered.enlist (numbered : world.IsNumbered)
    (next : process.pid = firstPid + world.processes.length) :
    (world.enlist process).IsNumbered := by
  have old : world.processes.map Process.pid = _ := numbered
  simp [IsNumbered, World.enlist, List.range'_concat, old, next]

theorem process?_enlist_of_ne {other : Pid} (different : other ≠ process.pid) :
    (world.enlist process).process? other = world.process? other := by
  have new : (process.pid == other) = false := by simpa using different.symm
  simp [process?, World.enlist, List.find?_append, new]

/-- A process that is known is known when there is one more. -/
theorem process?_enlist_of_known (numbered : world.IsNumbered)
    (next : process.pid = firstPid + world.processes.length) {other : Pid} {known : Process}
    (found : world.process? other = some known) :
    (world.enlist process).process? other = some known := by
  rw [process?_enlist_of_ne, found]
  rintro rfl
  have present : world.Knows process.pid := by rw [Knows, found]; rfl
  exact Nat.lt_irrefl _ (next ▸ numbered.lt present)

theorem process?_enlist (numbered : world.IsNumbered)
    (next : process.pid = firstPid + world.processes.length) :
    (world.enlist process).process? process.pid = some process :=
  (numbered.enlist next).process? (by simp [World.enlist])

theorem not_knows_next (numbered : world.IsNumbered) :
    ¬ world.Knows (firstPid + world.processes.length) :=
  fun known => Nat.lt_irrefl _ (numbered.lt known)

theorem knows_enlist (numbered : world.IsNumbered)
    (next : process.pid = firstPid + world.processes.length) {other : Pid}
    (known : world.Knows other) : (world.enlist process).Knows other := by
  have different : other ≠ process.pid := by
    rintro rfl
    exact not_knows_next numbered (next ▸ known)
  rwa [Knows, process?_enlist_of_ne different]

/-- Nothing was read from a process that is new, nor from one that is not known. -/
theorem read_enlist (numbered : world.IsNumbered)
    (next : process.pid = firstPid + world.processes.length) (silent : process.errors = {})
    (other : Pid) :
    ((world.enlist process).errors other).read = (world.errors other).read := by
  by_cases same : other = process.pid
  · subst same
    have unknown : world.process? process.pid = none := by
      have missing := not_knows_next numbered
      rw [← next] at missing
      simpa [Knows] using missing
    rw [errors, process?_enlist numbered next, errors, unknown]
    exact congrArg Stream.read silent
  · rw [errors, process?_enlist_of_ne same, errors]

theorem latestPid?_enlist_daemon (daemon : process.isDaemon) :
    (world.enlist process).latestPid? = some process.pid := by
  simp [latestPid?, latest?, World.enlist, List.filter_append, daemon]

theorem latestPid?_enlist_client (client : process.isDaemon = false) :
    (world.enlist process).latestPid? = world.latestPid? := by
  simp [latestPid?, latest?, World.enlist, List.filter_append, client]

end Enlist

end World

end EmacsSession
