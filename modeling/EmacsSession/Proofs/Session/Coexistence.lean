/-
This file shows which daemons are alive while another one is spawned.
-/

import Mathlib.Data.List.Induction
import EmacsSession.Proofs.Session.StopCall

namespace EmacsSession.Session

/-- A daemon of this number is spawned by the move. -/
def Spawns (session : Session) (move : Move) (pid : Pid) : Prop :=
  ¬ session.world.Knows pid ∧
    ∃ process, (session.move move).world.process? pid = some process ∧ process.isDaemon

/-- A caller that asks for the daemon to stop was heard while it ran as this process. -/
def IsDismissed (session : Session) (moves : List Move) (pid : Pid) : Prop :=
  ∃ before move after id, moves = before ++ move :: after ∧
    (session.follow before).RunsAs pid ∧ (session.follow before).HearsStop id move

/-- A daemon that is alive is the one of the phase, or one of these. -/
def AccountsWith (session : Session) (others : Pid → Prop) : Prop :=
  ∀ phase, session.Stands phase → ∀ pid, session.world.HasLiveDaemon pid →
    phase.pid? = some pid ∨ others pid

section Coexistence

variable {session after : Session} {phase : Phase} {mover : Option TaskId} {pid : Pid}
  {move : Move} {others : Pid → Prop}

/-- A daemon that stops running while its process is alive does so for a caller, which waits for the
end of the process from then on. -/
theorem stop_of_halt (stands : session.Stands (.running pid)) (step : Step mover session after)
    (halts : after.handle.status ≠ .running) (alive : after.hasExited pid = false) :
    ∃ id, mover = some id ∧ session.stage? id = some .stop ∧
      after.stage? id = some (.awaitTermination pid) := by
  have running : session.handle.status = .running := stands.status
  cases step with
  | quiet quiet => exact absurd (quiet.status.trans running) halts
  | leave found ended passes => exact absurd (by simpa using running) halts
  | abandon found flagged => exact absurd (by simpa using running) halts
  | enter found => cases stands.eq_of_stage? found rfl
  | refuse found starting fault => cases stands.eq_of_stage? found rfl
  | ready found setting shown diagnostics => cases stands.eq_of_stage? found rfl
  | abort found waking fault => cases stands.eq_of_stage? found (Stage.phase?_of_isWaking waking _)
  | notice found exited current =>
      cases stands.process.symm.trans current
      cases alive.symm.trans exited
  | @dismiss _ id _ found ran current message =>
      cases stands.process.symm.trans current
      refine ⟨id, rfl, found, stage?_moveTo_self ?_⟩
      rw [dismiss_tasks]
      exact lt_of_stage? found
  | release found exited => exact absurd (by simpa using running) halts
  | _ => exact absurd running halts

theorem AccountsWith.step (accounts : session.AccountsWith others) (stands : session.Stands phase)
    (step : Step mover session after)
    (deaf : ∀ id, mover = some id → session.stage? id ≠ some .stop) :
    after.AccountsWith others := by
  intro next standing pid live
  rcases live_of_step stands step live with before | ⟨id, spawned⟩
  · rcases accounts phase stands pid before with own | other
    · rcases own_of_step stands standing step own before with still | ⟨rfl, rfl⟩
      · exact .inl still
      · obtain ⟨id, moves, asks, -⟩ := stop_of_halt stands step standing.status live.not_hasExited
        exact absurd asks (deaf id moves)
    · exact .inr other
  · cases spawned.unique standing
    exact .inl rfl

theorem accountsWith_of_steps (accounts : session.AccountsWith others)
    (stands : session.Stands phase)
    (deaf : ∀ id, mover = some id → id < session.tasks.length ∧ session.stage? id ≠ some .stop)
    (steps : Steps mover session after) : after.AccountsWith others := by
  let holds (middle : Session) := middle.AccountsWith others ∧
    ∀ id, mover = some id → id < middle.tasks.length ∧ middle.stage? id ≠ some .stop
  have kept : holds after := by
    refine (Steps.keep holds stands ⟨accounts, deaf⟩ (fun standing here step => ?_) steps).1
    refine ⟨here.1.step standing step fun id moves => (here.2 id moves).2, fun id moves => ?_⟩
    obtain ⟨present, silent⟩ := here.2 id moves
    refine ⟨Nat.lt_of_lt_of_le present (length_of_step step), fun asks => ?_⟩
    exact silent (stage?_of_step_stopping step rfl present asks)
  exact kept.1

/-- A caller that ends without being heard, or while the daemon does not run, changes nothing. -/
theorem AccountsWith.finish {id : TaskId} {ending : Ending} (accounts : session.AccountsWith others)
    (stands : session.Stands phase) (asks : session.stage? id = some .stop)
    (quiet : Quiet (session.finish id ending) after) : after.AccountsWith others := by
  have still : (session.finish id ending).Stands phase := stands.moveTo asks rfl (.inl rfl)
  intro next standing pid live
  cases (still.quiet quiet).unique standing
  exact accounts phase stands pid (quiet.live live)

/-- A caller that is heard while the daemon runs leaves its process among the others. -/
theorem accountsWith_of_running {id : TaskId} (accounts : session.AccountsWith others)
    (stands : session.Stands phase) (hears : session.HearsStop id move) (runs : session.RunsAs pid)
    (dismissed : others pid) : (session.move move).AccountsWith others := by
  obtain ⟨queue, message, quiet, steps⟩ := move_of_running hears runs
  have standing := (runs.stands stands).quiet quiet
  have asks : queue.stage? id = some .stop := stage?_of_tasks quiet.tasks ▸ hears.asks
  have dismisses : (queue.dismiss pid message).stage? id = some .stop := by
    rw [stage?_dismiss, asks]
  have rests : ((queue.dismiss pid message).moveTo id (.awaitTermination pid)).Stands .resting :=
    (standing.dismiss pid message).moveTo dismisses rfl (.inl rfl)
  have step : Step (some id) queue
      ((queue.dismiss pid message).moveTo id (.awaitTermination pid)) :=
    .dismiss asks standing.status standing.process message
  refine accountsWith_of_steps (fun next there other live => .inr ?_) rests ?_ steps
  · have before := quiet.live (live_of_resting standing step rests live)
    rcases accounts _ (runs.stands stands) other before with own | left
    · cases own
      exact dismissed
    · exact left
  · rintro _ ⟨⟩
    have waits : ((queue.dismiss pid message).moveTo id (.awaitTermination pid)).stage? id =
        some (.awaitTermination pid) := stage?_moveTo_self (lt_of_stage? dismisses)
    refine ⟨lt_of_stage? waits, fun still => ?_⟩
    cases stage?_inj waits still

theorem accountsWith_of_move (accounts : session.AccountsWith others)
    (stands : session.Stands phase)
    (dismisses : ∀ id pid, session.HearsStop id move → session.RunsAs pid → others pid) :
    (session.move move).AccountsWith others := by
  have steps := move_steps stands.live move
  cases moves : session.mover move with
  | none =>
      rw [moves] at steps
      refine accountsWith_of_steps accounts stands ?_ steps
      nofun
  | some id =>
      obtain ⟨ready, same⟩ := move_eq moves
      let queue := { session with ready := session.ready.erase id }
      have quietly {ended : Session}
          (equal : queue.resume id = { ended with ready := queue.ready }) :
          Quiet ended (session.move move) := by
        rw [same, equal]
        exact ⟨_, _, _, _, _, rfl, List.suffix_refl _, rfl⟩
      cases found : session.stage? id with
      | none =>
          have absent : queue.stage? id = none := found
          have quiet : Quiet session (session.move move) := quietly (resume_of_absent absent)
          exact accounts.step stands (.quiet quiet : Step none _ _) nofun
      | some stage =>
          by_cases asks : stage = .stop
          · -- Of all turns only this one can make a process that is alive one of the others.
            subst asks
            have standing : queue.stage? id = some .stop := found
            cases flagged : session.isFlagged id with
            | true =>
                have marked : queue.isFlagged id = true := flagged
                have yields : queue.resume id = queue.finish id .cancelled := by
                  rw [resume_of_stage standing, marked]
                  rfl
                exact accounts.finish stands found (quietly yields)
            | false =>
                have hears : session.HearsStop id move := ⟨found, flagged, moves⟩
                by_cases running : session.handle.status = .running
                · obtain ⟨pid, -, current⟩ := stands.running running
                  have runs : session.RunsAs pid := ⟨running, current⟩
                  exact accountsWith_of_running accounts stands hears runs
                    (dismisses id pid hears runs)
                · obtain ⟨_, declines⟩ := move_of_notRunning hears running
                  have quiet : Quiet (session.finish id (.returned none)) (session.move move) := by
                    rw [declines]
                    exact ⟨_, _, _, _, _, rfl, List.suffix_refl _, rfl⟩
                  exact accounts.finish stands found quiet
          · rw [moves] at steps
            refine accountsWith_of_steps accounts stands ?_ steps
            rintro _ ⟨⟩
            refine ⟨lt_of_stage? found, fun stops => asks ?_⟩
            exact stage?_inj found stops

/-- From a session without daemons on, those that are alive are the one of the phase and those that
were dismissed. -/
theorem accountsWith_of_follow (stands : session.Stands phase)
    (none : ∀ pid, ¬ session.world.HasLiveDaemon pid) (moves : List Move) :
    (session.follow moves).AccountsWith (session.IsDismissed moves) := by
  induction moves using List.reverseRecOn with
  | nil => exact fun _ _ pid live => absurd live (none pid)
  | append_singleton moves last inductionHypothesis =>
      rw [follow_concat]
      obtain ⟨next, standing⟩ := stands.follow moves
      have before :
          (session.follow moves).AccountsWith (session.IsDismissed (moves ++ [last])) := by
        intro phase there pid live
        apply (inductionHypothesis phase there pid live).imp_right
        rintro ⟨earlier, move, later, id, rfl, dismissed⟩
        exact ⟨earlier, move, later ++ [last], id, by simp, dismissed⟩
      exact accountsWith_of_move before standing fun id pid hears runs =>
        ⟨moves, last, [], id, rfl, runs, hears⟩

/-- An attempt that has not gone on yet was there before a step, or is new. -/
theorem attempt_before_step {id : TaskId} (step : Step mover session after)
    (begins : after.stage? id = some .attempt) :
    session.stage? id = some .attempt ∨ session.tasks.length ≤ id := by
  cases arrival_of_step step begins with
  | stay before => exact .inl before
  | proceed moves before proceeds =>
      cases proceeds with
      | evaluate evaluation still => cases still
  | call new nobody call => exact .inr new
  | attempt new => exact .inr new
  | attend new given found same looks => exact .inr new

/-- A daemon is spawned by the turn of an attempt that begins. -/
theorem asked_of_spawns (stands : session.Stands phase) (spawns : session.Spawns move pid) :
    ∃ id, phase = .asked id := by
  obtain ⟨unknown, process, there, daemon⟩ := spawns
  let begins (id : TaskId) := session.stage? id = some .attempt ∨ session.tasks.length ≤ id
  let holds (middle : Session) := session.tasks.length ≤ middle.tasks.length ∧
    (∀ id, middle.stage? id = some .attempt → begins id) ∧
    ∀ process, middle.world.process? pid = some process → process.isDaemon →
      ∃ id, session.mover move = some id ∧ begins id
  have known : ∀ process, session.world.process? pid = some process → process.isDaemon →
      ∃ id, session.mover move = some id ∧ begins id := by
    intro process found
    rw [World.Knows, found] at unknown
    exact absurd rfl unknown
  obtain ⟨-, -, spawned⟩ : holds (session.move move) := by
    refine (Steps.keep holds stands ⟨Nat.le_refl _, fun _ => .inl, known⟩
      (fun {middle after _} standing here step => ?_) (move_steps stands.live move)).1
    obtain ⟨more, began, spawned⟩ := here
    refine ⟨Nat.le_trans more (length_of_step step), fun id asks => ?_,
      fun process there made => ?_⟩
    · rcases attempt_before_step step asks with before | new
      · exact began id before
      · exact .inr (Nat.le_trans more new)
    · cases found : middle.world.process? pid with
      | some earlier =>
          obtain ⟨later, still, lasts⟩ := process?_of_step standing step found
          cases there.symm.trans still
          exact spawned earlier found (lasts.isDaemon ▸ made)
      | none =>
          obtain ⟨id, moves, attempts, -⟩ := spawning_of_step standing step found there made
          exact ⟨id, moves, began id attempts⟩
  obtain ⟨id, moves, asks | absent⟩ := spawned process there daemon
  · exact ⟨id, stands.eq_of_stage? asks rfl⟩
  · -- Nothing happens in the turn of a task that is not there.
    have missing : session.stage? id = none := by simpa [stage?] using absent
    obtain ⟨ready, same⟩ := absent_eq moves missing
    rw [same] at there
    rw [World.Knows, there] at unknown
    exact absurd rfl unknown

theorem daemon_of_follow (stands : session.Stands phase) {process : Process}
    (found : session.world.process? pid = some process) (daemon : process.isDaemon)
    (moves : List Move) : ∃ later, (session.follow moves).world.process? pid = some later ∧
      later.isDaemon := by
  refine (follow_keep (fun session => ∃ later, session.world.process? pid = some later ∧
    later.isDaemon) stands ⟨process, found, daemon⟩ (fun standing here step => ?_) moves).1
  obtain ⟨earlier, there, made⟩ := here
  obtain ⟨later, still, lasts⟩ := process?_of_step standing step there
  exact ⟨later, still, lasts.isDaemon ▸ made⟩

end Coexistence

/-- The daemons that are alive while another one is spawned are those that were dismissed and have
not ended since. -/
theorem live_iff_isDismissed (settings : Settings) (tree : Tree) (moves : List Move) {move : Move}
    {pid : Pid} (spawns : ((fresh settings tree).follow moves).Spawns move pid) (other : Pid) :
    ((fresh settings tree).follow moves).world.HasLiveDaemon other ↔
      (fresh settings tree).IsDismissed moves other ∧
        ((fresh settings tree).follow moves).hasExited other = false := by
  have start := fresh_stands settings tree
  constructor
  · intro live
    obtain ⟨phase, stands⟩ := start.follow moves
    obtain ⟨id, rfl⟩ := asked_of_spawns stands spawns
    have none (pid : Pid) : ¬ (fresh settings tree).world.HasLiveDaemon pid := by
      rintro ⟨process, found, -⟩
      cases found
    have dismissed := (accountsWith_of_follow start none moves _ stands other live).resolve_left
    exact ⟨dismissed nofun, live.not_hasExited⟩
  · rintro ⟨⟨before, move, after, id, rfl, runs, -⟩, alive⟩
    obtain ⟨phase, standing⟩ := start.follow before
    have ran := runs.stands standing
    obtain ⟨process, latest, -, found⟩ := ran.numbered.latest (ran.latest other rfl)
    have daemon : process.isDaemon :=
      (List.mem_filter.mp (List.mem_of_getLast? latest)).2
    obtain ⟨later, there, made⟩ := daemon_of_follow ran found daemon (move :: after)
    rw [← follow_append] at there
    refine ⟨later, there, made, ?_⟩
    rw [hasExited, World.hasExited, World.exitCode?, there] at alive
    simpa using alive

/-- A caller asks for the daemon to stop, whose process goes on, and another caller asks for it to
run. -/
def succession : List Move :=
  sampleIgnorance :: sampleStart 0 1001 ++ [.event .stop, .turn 4, .event (.start false), .turn 5]

theorem spawns_succession : (sample.follow succession).Spawns (.turn 6) 1002 :=
  ⟨nofun, _, rfl, rfl⟩

/-- The process of the daemon that was dismissed is alive. -/
theorem live_succession : (sample.follow succession).Spawns (.turn 6) 1002 ∧
    (sample.follow succession).world.HasLiveDaemon 1001 := by
  have dismissed : sample.IsDismissed succession 1001 :=
    ⟨sampleIgnorance :: sampleStart 0 1001 ++ [.event .stop], .turn 4,
      [.event (.start false), .turn 5], 4, rfl, ⟨rfl, rfl⟩, rfl, rfl, rfl⟩
  exact ⟨spawns_succession,
    (live_iff_isDismissed _ _ _ spawns_succession 1001).mpr ⟨dismissed, rfl⟩⟩

/-- Not every daemon is spawned while no other one is alive. -/
theorem not_forall_alone : ¬ ∀ moves move pid other, (sample.follow moves).Spawns move pid →
    ¬ (sample.follow moves).world.HasLiveDaemon other := by
  intro claim
  exact claim succession (.turn 6) 1002 1001 spawns_succession ⟨_, rfl, rfl, rfl⟩

end EmacsSession.Session
