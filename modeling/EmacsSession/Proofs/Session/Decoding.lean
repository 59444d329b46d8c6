/-
This file shows that the text of the diagnostics of a process, which is decoded chunk by chunk while
an attempt waits and then while it is forwarded, is that of all octets at once.
-/

import EmacsSession.Proofs.Session.Detection
import EmacsSession.Proofs.Utf8.Whole

namespace EmacsSession

namespace Readiness

/-- The decoder that is kept after a chunk. -/
def Outcome.decoder? : Outcome → Option Utf8.Decoder
  | .waiting readiness => some readiness.decoder
  | .ready decoder _ => some decoder
  | .emptyMarker => none

variable {decoder : Utf8.Decoder}

theorem feed_decodes (marker : List Char) (readiness : Readiness) (chunk : List UInt8) :
    (feed marker readiness chunk).1 = (readiness.decoder.feed chunk).2 ∧
      ∀ decoder, (feed marker readiness chunk).2.decoder? = some decoder →
        decoder = (readiness.decoder.feed chunk).1 := by
  rw [feed]
  dsimp only
  split
  next =>
    refine ⟨rfl, fun _ kept => ?_⟩
    cases kept
  next => split <;> exact ⟨rfl, fun _ kept => (Option.some.inj kept).symm⟩

/-- The chunks that were read are decoded one after the other. -/
theorem run_decodes (marker : List Char) (readiness : Readiness) (chunks : List (List UInt8)) :
    (run marker readiness chunks).texts =
        readiness.decoder.texts (chunks.take (run marker readiness chunks).texts.length) ∧
      ∀ decoder, (run marker readiness chunks).outcome.decoder? = some decoder →
        decoder = (readiness.decoder.feed
          (chunks.take (run marker readiness chunks).texts.length).flatten).1 := by
  induction chunks generalizing readiness with
  | nil => exact ⟨rfl, fun _ kept => (Option.some.inj kept).symm⟩
  | cons chunk chunks inductionHypothesis =>
      obtain ⟨text, kept⟩ := feed_decodes marker readiness chunk
      rw [run]
      split
      next shown next found =>
        rw [found] at text kept
        obtain ⟨texts, decodes⟩ := inductionHypothesis next
        have same : next.decoder = (readiness.decoder.feed chunk).1 := kept _ rfl
        rw [same] at texts decodes
        have first : shown = (readiness.decoder.feed chunk).2 := text
        refine ⟨?_, fun decoder held => ?_⟩
        · dsimp only
          rw [List.length_cons, List.take_succ_cons, Utf8.Decoder.texts, ← texts, first]
        · dsimp only
          rw [List.length_cons, List.take_succ_cons, List.flatten_cons, Utf8.Decoder.feed_append]
          exact decodes decoder held
      next shown outcome _ found =>
        rw [found] at text kept
        have first : shown = (readiness.decoder.feed chunk).2 := text
        refine ⟨by simp [Utf8.Decoder.texts, first], fun decoder held => ?_⟩
        simpa using kept decoder held

end Readiness

/-- The process whose diagnostics a task decodes, and its decoder. -/
def Stage.decoder? : Stage → Option (Pid × Utf8.Decoder)
  | .awaitSpawn pid => some (pid, .idle)
  | .awaitReady pid readiness => some (pid, readiness.decoder)
  | .relay pid diagnostics => some (pid, diagnostics.decoder)
  | _ => none

theorem Stage.reads?_of_decoder? {stage : Stage} {pid : Pid} {decoder : Utf8.Decoder}
    (decodes : stage.decoder? = some (pid, decoder)) : stage.reads? = some pid := by
  cases stage <;> cases decodes <;> rfl

namespace Session

/-- The decoder of a task in this stage has been fed with what was read of the diagnostics, and with
nothing else. -/
def Decodes (session : Session) (stage : Stage) : Prop :=
  ∀ pid decoder, stage.decoder? = some (pid, decoder) →
    decoder = (Utf8.Decoder.idle.feed (session.world.errors pid).inOrder.flatten).1

/-- An attempt, and the tasks that it began since there were so many, decode what was read. -/
def DecodesFor (session : Session) (id : TaskId) (count : Nat) : Prop :=
  ∀ other stage, session.stage? other = some stage → other = id ∨ count ≤ other →
    session.Decodes stage

section Turns

variable {session later : Session} {id : TaskId} {pid : Pid} {stage : Stage} {count : Nat}
  {readiness : Readiness}

theorem decodes_of_none (none : stage.decoder? = none) : session.Decodes stage := by
  intro pid decoder decodes
  cases none.symm.trans decodes

theorem Decodes.keep (decodes : session.Decodes stage) (same : stage.reads? = some pid)
    (keeps : (session.world.errors pid).Keeps (later.world.errors pid)) : later.Decodes stage := by
  intro other decoder held
  cases (Stage.reads?_of_decoder? held).symm.trans same
  rw [keeps.inOrder]
  exact decodes _ _ held

theorem eq_of_stage?_moveTo {other : TaskId} {standing : Stage}
    (few : session.tasks.length ≤ count)
    (here : (session.moveTo id stage).stage? other = some standing)
    (either : other = id ∨ count ≤ other) : standing = stage := by
  rcases stage?_moveTo here with ⟨-, same⟩ | before
  · exact same
  · rcases either with rfl | new
    · rw [stage?_moveTo_self (lt_of_stage? before)] at here
      exact (Option.some.inj here).symm
    · exact absurd (lt_of_stage? before) (Nat.not_lt.mpr (few.trans new))

theorem decodesFor_moveTo (few : session.tasks.length ≤ count)
    (own : (session.moveTo id stage).Decodes stage) :
    (session.moveTo id stage).DecodesFor id count := by
  intro other standing here either
  rw [eq_of_stage?_moveTo few here either]
  exact own

theorem decodesFor_failAttempt (few : session.tasks.length ≤ count) (fault : Fault) :
    (session.failAttempt id pid fault).DecodesFor id count := by
  let stopped := (session.withProcess none).become .stopped
  let ending := if stopped.hasExited pid then stopped else stopped.kill pid
  have fewer : ending.tasks.length ≤ count := by
    dsimp only [ending]
    split <;> exact few
  have fails : session.failAttempt id pid fault =
      if ending.hasExited pid then ending.moveTo id (.ended (.failed fault))
      else ending.moveTo id (.awaitEnd pid fault) := rfl
  rw [fails]
  split
  next => exact decodesFor_moveTo fewer (decodes_of_none rfl)
  next => exact decodesFor_moveTo fewer (decodes_of_none rfl)

theorem decodesFor_failWithCode (few : session.tasks.length ≤ count) :
    (session.failWithCode id pid).DecodesFor id count := by
  rw [failWithCode]
  split
  next => exact decodesFor_failAttempt few _
  next => exact decodesFor_moveTo few (decodes_of_none rfl)

theorem decodesFor_becomeReady {diagnostics : Diagnostics} (present : id < session.tasks.length)
    (few : session.tasks.length ≤ count)
    (own : (session.becomeReady id pid diagnostics).Decodes (.relay pid diagnostics)) :
    (session.becomeReady id pid diagnostics).DecodesFor id count := by
  intro other standing here either
  rw [stage?_of_tasks (becomeReady_tasks _ _ _ _ present)] at here
  rcases stage?_begin here with before | ⟨-, rfl⟩
  · rcases stage?_begin before with old | ⟨-, rfl⟩
    · rw [eq_of_stage?_moveTo few old either]
      exact decodes_of_none rfl
    · exact own
  · exact decodes_of_none rfl

/-- Reading on, an attempt keeps the decoder that has been fed with all that it has read. -/
theorem decodesFor_readUntilReady (present : id < session.tasks.length)
    (few : session.tasks.length ≤ count) (known : session.world.Knows pid)
    (fed : session.Decodes (.awaitReady pid readiness)) :
    (session.readUntilReady id pid readiness).DecodesFor id count := by
  rw [readUntilReady]
  dsimp only
  split
  next => exact decodesFor_failAttempt few _
  next => exact decodesFor_failAttempt few _
  next marker setting _ =>
    have decodes := (Readiness.run_decodes marker.toList readiness
      (session.world.errors pid).coming).2
    generalize readiness.run marker.toList (session.world.errors pid).coming = result at decodes ⊢
    let taken := (session.world.errors pid).coming.take result.texts.length
    have reads := hasRead_logged known taken result.left result.texts
    generalize result.texts.foldl logChunk (session.takeChunks pid taken result.left) = logged
      at reads ⊢
    have inside : id < logged.tasks.length := reads.tasks ▸ present
    have fewer : logged.tasks.length ≤ count := reads.tasks ▸ few
    have right {decoder : Utf8.Decoder} (kept : result.outcome.decoder? = some decoder) :
        decoder = (Utf8.Decoder.idle.feed (logged.world.errors pid).inOrder.flatten).1 := by
      rw [reads.inOrder, List.flatten_append, Utf8.Decoder.feed_append, ← fed pid _ rfl]
      exact decodes decoder kept
    split
    next decoder rest ready =>
      refine decodesFor_becomeReady inside fewer fun other held same => ?_
      cases same
      exact right (by rw [ready]; rfl)
    next => exact decodesFor_failAttempt fewer _
    next next waiting =>
      split
      next => exact decodesFor_failWithCode fewer
      next =>
        refine decodesFor_moveTo fewer fun other held same => ?_
        cases same
        exact right (by rw [waiting]; rfl)

theorem decodesFor_attach (present : id < session.tasks.length)
    (few : session.tasks.length ≤ count) (known : session.world.Knows pid)
    (fed : session.Decodes (.awaitSpawn pid)) :
    (session.attach id pid).DecodesFor id count := by
  rw [attach]
  split
  next =>
    let attached := session.withProcess (some pid)
    have starts : attached.Decodes (.awaitReady pid {}) := fed
    exact @decodesFor_readUntilReady attached id pid count {} present few known starts
  next => exact decodesFor_moveTo few fed

theorem decodesFor_launch (numbered : session.world.IsNumbered)
    (present : id < session.tasks.length) (few : session.tasks.length ≤ count)
    (directory : Path) : (session.launch id directory).DecodesFor id count := by
  cases launch_launches session id directory with
  | refused spawns runs =>
      rw [runs]
      exact decodesFor_moveTo (spawns.tasks ▸ few) (decodes_of_none rfl)
  | unfit spawns odd runs =>
      rw [runs]
      exact decodesFor_moveTo (spawns.tasks ▸ few) (decodes_of_none rfl)
  | @hired new tried spawns runs =>
      have silent := spawns.errors numbered
      obtain ⟨process, rfl, recruit, grown⟩ := spawns.grown
      have known : tried.world.Knows process.pid := by
        have enlisted := World.process?_enlist numbered recruit.next
        obtain ⟨_, _, _, _, _, rfl, -, -⟩ := grown
        exact Option.isSome_iff_exists.mpr ⟨process, enlisted⟩
      have fed : tried.Decodes (.awaitSpawn process.pid) := by
        intro other decoder same
        cases same
        rw [silent]
        rfl
      rw [runs]
      exact decodesFor_attach (spawns.tasks ▸ present) (spawns.tasks ▸ few) known fed

theorem decodesFor_runAttempt (numbered : session.world.IsNumbered)
    (present : id < session.tasks.length) (few : session.tasks.length ≤ count) :
    (session.runAttempt id).DecodesFor id count := by
  cases runAttempt_attempts session id with
  | reuses current runs =>
      rw [runs]
      exact @decodesFor_launch (session.become .starting) id count numbered present few _
  | @makes directory disk vacant made runs =>
      rw [runs]
      exact @decodesFor_launch (((session.become .starting).onDisk disk).adopt directory) id count
        numbered present few _
  | refused vacant made runs =>
      rw [runs]
      exact decodesFor_moveTo few (decodes_of_none rfl)
  | unfit vacant made odd runs =>
      rw [runs]
      exact decodesFor_moveTo few (decodes_of_none rfl)

/-- An attempt that goes on decodes what was read, and so does what it begins. -/
theorem decodesFor_resume (numbered : session.world.IsNumbered)
    (found : session.stage? id = some stage) (few : session.tasks.length ≤ count)
    (kind : stage = .attempt ∨ stage.young?.isSome)
    (known : ∀ pid, stage.young? = some pid → session.world.Knows pid)
    (decodes : session.Decodes stage) : (session.resume id).DecodesFor id count := by
  have present := lt_of_stage? found
  have same : session.resume id = session.proceed id stage := by
    rw [resume_of_stage found]
    split
    next =>
      rcases kind with rfl | young
      · rfl
      · cases stage <;> first | rfl | cases young
    next => rfl
  rw [same]
  rcases kind with rfl | young
  · exact decodesFor_runAttempt numbered present few
  · cases stage with
    | awaitSpawn pid => exact decodesFor_attach present few (known pid rfl) decodes
    | awaitReady pid readiness =>
        exact decodesFor_readUntilReady present few (known pid rfl) decodes
    | awaitCode pid => exact decodesFor_failWithCode few
    | _ => cases young

end Turns

section Moves

variable {session : Session} {phase : Phase} {id : TaskId} {pid : Pid} {stage : Stage}

/-- Where a task comes from that forwards diagnostics within a move: it did so before, or an attempt
waited for the process before, or goes on. -/
def HasOrigin (session : Session) (move : Move) (later : Session) : Prop :=
  ∀ id pid diagnostics, later.stage? id = some (.relay pid diagnostics) →
    (∃ earlier, session.stage? id = some (.relay pid earlier)) ∨
      (∃ attempt stage, session.stage? attempt = some stage ∧ stage.young? = some pid) ∨
        ∃ attempt, session.GoesOn move attempt

theorem HasOrigin.step {move : Move} {before after : Session}
    (origin : session.HasOrigin move before)
    (rooted : ∀ attempt, session.IsRooted move attempt before)
    (step : Step (session.mover move) before after) : session.HasOrigin move after := by
  intro id pid diagnostics here
  rcases relay_before_step step here with ⟨earlier, relays⟩ | ⟨-, attempt, readiness, waits⟩
  · exact origin id pid earlier relays
  · rcases (rooted attempt).had _ waits rfl with same | goes
    · exact .inr (.inl ⟨attempt, _, same, rfl⟩)
    · exact .inr (.inr ⟨attempt, goes⟩)

/-- A task that forwards diagnostics after a move did so before, or began as an attempt went on. -/
theorem goesOn_of_relay {move : Move} {diagnostics : Diagnostics} (stands : session.Stands phase)
    (here : (session.move move).stage? id = some (.relay pid diagnostics)) :
    (∃ earlier, session.stage? id = some (.relay pid earlier)) ∨
      ∃ attempt, session.GoesOn move attempt := by
  by_cases absent : ∃ mover, session.mover move = some mover ∧ session.stage? mover = none
  · obtain ⟨mover, moves, missing⟩ := absent
    obtain ⟨ready, same⟩ := absent_eq moves missing
    rw [same] at here
    exact .inl ⟨diagnostics, here⟩
  · have there (attempt : TaskId) (moves : session.mover move = some attempt) :
        attempt < session.tasks.length := by
      cases found : session.stage? attempt with
      | none => exact absurd ⟨attempt, moves, found⟩ absent
      | some stage => exact lt_of_stage? found
    let holds (later : Session) :=
      session.HasOrigin move later ∧ ∀ attempt, session.IsRooted move attempt later
    have begins : holds session :=
      ⟨fun id pid diagnostics relays => .inl ⟨diagnostics, relays⟩,
        fun attempt => isRooted_self (there attempt)⟩
    have origin : session.HasOrigin move (session.move move) :=
      (Steps.keep holds stands begins (fun _ held step =>
        ⟨held.1.step held.2 step, fun attempt => (held.2 attempt).step step⟩)
        (move_steps stands.live move)).1.1
    rcases origin id pid diagnostics here with before | ⟨attempt, stage, found, young⟩ | goes
    · exact .inl before
    · by_cases moves : session.mover move = some attempt
      · exact .inr ⟨attempt, moves, stage, found, .inr (by rw [young]; rfl)⟩
      · have waits := (stage?_of_move stands moves (lt_of_stage? found)).trans found
        obtain ⟨next, standing⟩ := stands.move move
        have different : id ≠ attempt := by
          rintro rfl
          cases stage?_inj here waits
          cases young
        exact absurd rfl (apart_of_young standing waits young different here)
    · exact .inr goes

/-- All tasks decode what was read of the diagnostics of their processes. -/
def AllDecode (session : Session) : Prop :=
  ∀ id stage, session.stage? id = some stage → session.Decodes stage

theorem Decodes.stay {move : Move} (decodes : session.Decodes stage) (stands : session.Stands phase)
    (alone : session.HasOneRelay) (found : session.stage? id = some stage)
    (moves : session.mover move ≠ some id) : (session.move move).Decodes stage := by
  intro pid decoder held
  have reads := Stage.reads?_of_decoder? held
  have known := stands.readsKnown id stage pid found reads
  have keeps := errors_of_move stands known fun other standing moved here => by
    have different : other ≠ id := fun own => moves (own ▸ moved)
    rcases Stage.reads?_cases reads with young | ⟨diagnostics, rfl⟩
    · exact apart_of_young stands found young different here
    · exact apart_of_relay stands alone found different here
  exact decodes.keep reads keeps pid decoder held

theorem AllDecode.move (all : session.AllDecode) (stands : session.Stands phase)
    (alone : session.HasOneRelay) (move : Move) : (session.move move).AllDecode := by
  -- What an attempt that goes on leaves for itself and for the tasks that it begins.
  have goes {attempt : TaskId} (goesOn : session.GoesOn move attempt) :
      (session.move move).DecodesFor attempt session.tasks.length := by
    obtain ⟨moves, earlier, found, kind⟩ := goesOn
    obtain ⟨ready, same⟩ := move_eq moves
    let queue := { session with ready := session.ready.erase attempt }
    have standing : queue.stage? attempt = some earlier := found
    have known (pid : Pid) (young : earlier.young? = some pid) : queue.world.Knows pid :=
      (isSoleReader_of_young stands found young).1
    rw [same]
    exact @decodesFor_resume queue attempt earlier _ stands.numbered standing (Nat.le_refl _) kind
      known (all attempt earlier found)
  intro id stage here pid decoder held
  rcases Stage.reads?_cases (Stage.reads?_of_decoder? held) with young | ⟨diagnostics, rfl⟩
  · rcases goesOn_of_young stands here young with before | goesOn
    · by_cases moves : session.mover move = some id
      · have goesOn : session.GoesOn move id := ⟨moves, stage, before, .inr (by rw [young]; rfl)⟩
        exact goes goesOn id stage here (.inl rfl) pid decoder held
      · exact (all id stage before).stay stands alone before moves pid decoder held
    · exact goes goesOn id stage here (.inl rfl) pid decoder held
  · have stays (old : id < session.tasks.length) (moves : session.mover move ≠ some id) :
        (session.move move).Decodes (.relay pid diagnostics) := by
      have before := (stage?_of_move stands moves old).symm.trans here
      exact (all id _ before).stay stands alone before moves
    rcases goesOn_of_relay stands here with ⟨earlier, before⟩ | ⟨attempt, goesOn⟩
    · by_cases moves : session.mover move = some id
      · cases relays_of_move stands moves before with
        | cancelled ends unread utters => cases stage?_inj here ends
        | refused broken ends unread utters => cases stage?_inj here ends
        | returned closed ends read utters => cases stage?_inj here ends
        | goes lasts goesOn read utters =>
            cases stage?_inj here goesOn
            cases held
            rw [read, Stream.inOrder_afterReading, List.flatten_append, Utf8.Decoder.feed_append,
              ← all id _ before pid _ rfl]
            exact (Diagnostics.run_leads earlier _).decoder
      · exact stays (lt_of_stage? before) moves pid decoder held
    · by_cases either : id = attempt ∨ session.tasks.length ≤ id
      · exact goes goesOn id _ here either pid decoder held
      · obtain ⟨other, old⟩ := not_or.mp either
        have moves : session.mover move ≠ some id := fun own =>
          other (Option.some.inj (own.symm.trans goesOn.1))
        exact stays (Nat.lt_of_not_le old) moves pid decoder held

end Moves

section Runs

/-- A task that decodes chunk by chunk has the text of all the octets at once, with what it would
still give at their end. -/
theorem AllDecode.whole {session : Session} {id : TaskId} {pid : Pid} {stage : Stage}
    {decoder : Utf8.Decoder} (all : session.AllDecode) (found : session.stage? id = some stage)
    (held : stage.decoder? = some (pid, decoder)) :
    (Utf8.Decoder.idle.texts (session.world.errors pid).inOrder).flatten ++ decoder.finish =
      Utf8.decode (session.world.errors pid).inOrder.flatten := by
  rw [all id stage found pid decoder held]
  exact Utf8.Decoder.texts_finish _

end Runs

end Session

end EmacsSession
