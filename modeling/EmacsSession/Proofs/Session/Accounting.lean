/-
This file shows that each daemon process that is alive is the one that the session stands for, or
was asked to terminate.
-/

import EmacsSession.Proofs.Session.Frame

namespace EmacsSession

/-- A daemon of this number is alive. -/
def World.HasLiveDaemon (world : World) (pid : Pid) : Prop :=
  ∃ process, world.process? pid = some process ∧ process.isDaemon ∧ process.exitCode = none

theorem World.HasLiveDaemon.not_hasExited {world : World} {pid : Pid}
    (live : world.HasLiveDaemon pid) : world.hasExited pid = false := by
  obtain ⟨process, found, -, alive⟩ := live
  rw [hasExited, exitCode?, found, Option.bind_some, alive]
  rfl

namespace Session

/-- A daemon that is alive is the one of the phase, or was asked to terminate. -/
def Accounts (session : Session) : Prop :=
  ∀ phase, session.Stands phase → ∀ pid, session.world.HasLiveDaemon pid →
    phase.pid? = some pid ∨ .terminated pid ∈ session.deeds

section Accounting

variable {session after : Session} {phase : Phase} {mover : Option TaskId} {pid : Pid}

theorem Quiet.live (quiet : Quiet session after) (live : after.world.HasLiveDaemon pid) :
    session.world.HasLiveDaemon pid := by
  obtain ⟨_, _, _, _, _, rfl, -, -⟩ := quiet
  exact live

/-- A daemon that is known after a step but not before it was spawned by an attempt that went on. -/
theorem spawning_of_step (stands : session.Stands phase) (step : Step mover session after)
    {process : Process} (unknown : session.world.process? pid = none)
    (there : after.world.process? pid = some process) (daemon : process.isDaemon) :
    ∃ id, mover = some id ∧ session.stage? id = some .attempt ∧
      after.Stands (.spawning id pid) := by
  have same (world : after.world.process? pid = session.world.process? pid) :
      ∃ id, mover = some id ∧ session.stage? id = some .attempt ∧
        after.Stands (.spawning id pid) := by
    cases (world.trans unknown).symm.trans there
  have altered {other : Pid} {change : Process → Process}
      (lasts : ∀ process : Process, process.Lasts (change process)) :
      (session.world.alter other change).process? pid = session.world.process? pid := by
    rw [World.process?_alter fun process => (lasts process).pid, unknown]
    rfl
  cases step with
  | quiet quiet =>
      obtain ⟨_, _, _, _, _, rfl, -, -⟩ := quiet
      exact same rfl
  | develop other change continues =>
      exact same (altered fun process => (continues process).toLasts)
  | @spawn _ id here starting new next made fresh silent =>
      by_cases equal : pid = new.pid
      · subst equal
        exact ⟨id, rfl, here, stands.spawn here starting next made⟩
      · exact same (World.process?_enlist_of_ne equal)
  | read here taken left follows => exact same (altered (Process.read_lasts taken left))
  | relay here taken left later => exact same (altered (Process.read_lasts taken left))
  | dismiss here running current message =>
      apply same
      rw [moveTo_world, dismiss_world]
      split
      next => rfl
      next => exact altered fun process => (Process.terminate_continues process).toLasts
  | release here exited => exact same (by rw [moveTo_world, releaseBackground_world])
  | @spawnClient _ id form input here running new next client silent =>
      by_cases equal : pid = new.pid
      · subst equal
        have known := World.process?_enlist stands.numbered next
        cases there.symm.trans known
        rw [client] at daemon
        cases daemon
      · exact same (World.process?_enlist_of_ne equal)
  | leave here ended passes => exact same (by simp)
  | abandon here flagged => exact same (by simp)
  | _ => exact same rfl

/-- A daemon that is alive was alive before, or an attempt has just spawned it. -/
theorem live_of_step (stands : session.Stands phase) (step : Step mover session after)
    (live : after.world.HasLiveDaemon pid) :
    session.world.HasLiveDaemon pid ∨ ∃ id, after.Stands (.spawning id pid) := by
  obtain ⟨process, there, daemon, alive⟩ := live
  cases found : session.world.process? pid with
  | some earlier =>
      obtain ⟨later, known, lasts⟩ := process?_of_step stands step found
      cases there.symm.trans known
      refine .inl ⟨earlier, found, lasts.isDaemon ▸ daemon, ?_⟩
      cases ended : earlier.exitCode with
      | none => rfl
      | some code => cases alive.symm.trans (lasts.ended code ended)
  | none =>
      obtain ⟨id, -, -, spawned⟩ := spawning_of_step stands step found there daemon
      exact .inr ⟨id, spawned⟩

/-- The daemon of the phase stays the one of the phase while it is alive, unless it ran and has
stopped. -/
theorem own_of_step (stands : session.Stands phase) {next : Phase} (standing : after.Stands next)
    (step : Step mover session after) (own : phase.pid? = some pid)
    (live : session.world.HasLiveDaemon pid) :
    next.pid? = some pid ∨ phase = .running pid ∧ next = .resting := by
  obtain ⟨other, leads, passage⟩ := stands.step step
  cases leads.unique standing
  cases passage with
  | stay => exact .inl own
  | ask => cases own
  | refuse => cases own
  | spawn new => cases own
  | attach => exact .inl own
  | ready => exact .inl own
  | abort => exact .inl own
  | fail exited =>
      cases own
      cases exited.symm.trans live.not_hasExited
  | halt ends =>
      cases own
      exact .inr ⟨rfl, rfl⟩

theorem fresh_accounts (settings : Settings) (tree : Tree) : (fresh settings tree).Accounts := by
  rintro phase stands pid ⟨process, found, -⟩
  cases found

theorem Accounts.step (accounts : session.Accounts) (stands : session.Stands phase)
    (step : Step mover session after) : after.Accounts := by
  intro next standing pid live
  rcases live_of_step stands step live with before | ⟨id, spawned⟩
  · rcases accounts phase stands pid before with own | terminated
    · rcases own_of_step stands standing step own before with still | ⟨rfl, rfl⟩
      · exact .inl still
      · obtain ⟨other, leads, passage⟩ := stands.step step
        cases leads.unique standing
        cases passage with
        | halt ends =>
            right
            apply ends.resolve_left
            intro exited
            cases exited.symm.trans before.not_hasExited
    · exact .inr ((deeds_of_step step).subset terminated)
  · cases spawned.unique standing
    exact .inl rfl

end Accounting

end Session

end EmacsSession
