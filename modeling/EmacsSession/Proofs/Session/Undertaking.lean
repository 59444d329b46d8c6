/-
This file shows what an attempt to start the daemon has done in each of its stages.
-/

import EmacsSession.Proofs.Session.Serial

namespace EmacsSession

/-- There is a ready marker with characters to look for, and the directory under which init
directories are made has a text without zero characters. -/
structure Settings.IsUsable (settings : Settings) : Prop where
  marked : ∃ marker, settings.readyMarker = some marker ∧ marker ≠ ""
  rooted : settings.root.text.toList.contains '\x00' = false

theorem Readiness.run_ne_emptyMarker {marker : List Char} (letters : marker ≠ [])
    (readiness : Readiness) (chunks : List (List UInt8)) :
    (readiness.run marker chunks).outcome ≠ .emptyMarker := by
  have some : marker.isEmpty = false := by simpa using letters
  induction chunks generalizing readiness with
  | nil => simp [run]
  | cons chunk chunks inductionHypothesis =>
      rw [run, feed]
      simp only [some, Bool.false_eq_true, if_false]
      generalize textBehind? marker (readiness.tail ++ (readiness.decoder.feed chunk).2) = found
      cases found with
      | some rest => simp
      | none => exact inductionHypothesis _

/-- Only the operating system refuses to make an init directory under a usable root. -/
theorem Disk.system_of_makeInitDirectory {disk : Disk} {root : Path} {fault : Fault}
    (rooted : root.text.toList.contains '\x00' = false)
    (refused : (disk.makeInitDirectory root).1 = .error fault) :
    ∃ error, fault = .system error := by
  rw [makeInitDirectory, rooted] at refused
  split at refused
  · cases refused
    exact ⟨_, rfl⟩
  · simp only [Bool.false_eq_true, if_false] at refused
    split at refused
    · cases refused
      exact ⟨_, rfl⟩
    next laterDisk _ _ tree _ =>
      generalize makeFresh root attempts { laterDisk with tree := tree } = made at refused
      obtain ⟨result, disk⟩ := made
      cases result with
      | error error =>
          cases refused
          exact ⟨error, rfl⟩
      | ok path => cases refused

namespace Session

/-- One spawn of the daemon was asked for since earlier spawns, with this init directory and
result. -/
def Tries (session : Session) (earlier : List Deed) (directory : Path) (result : Option Pid) :
    Prop :=
  session.books.engagements = .spawned result
    (session.handle.settings.emacs ++ ["--fg-daemon=" ++ session.handle.settings.name,
      "--init-directory=" ++ directory.text]) .nothing .nothing .pipe :: earlier

/-- The faults with which an attempt to start the daemon fails, and the spawns since earlier ones:
none where there is no init directory, else one, whose process has exited if there is one. -/
inductive Fails (session : Session) (earlier : List Deed) : Fault → Prop
  | noDirectory (error : SystemError) (none : session.books.engagements = earlier) :
      Fails session earlier
        (.spawn (.initDirectory session.handle.settings.root.text) error)
  | noProcess {directory : Path} (error : SystemError)
      (tries : session.Tries earlier directory none) :
      Fails session earlier (.spawn
        (.daemon ((session.handle.settings.emacs ++
          ["--fg-daemon=" ++ session.handle.settings.name,
            "--init-directory=" ++ directory.text]).headD "")) error)
  | exited {directory : Path} {pid : Pid} {code : Int}
      (tries : session.Tries earlier directory (some pid))
      (exited : session.world.exitCode? pid = some code) :
      Fails session earlier (.abnormalExit (some code)
        (some ("Emacs daemon " ++ session.handle.settings.name ++ " exited with code " ++
          toString code ++ " before it was ready")))

/-- The daemon runs as this process, or the process has exited and the daemon has stopped. -/
def RanAs (session : Session) (pid : Pid) : Prop :=
  session.RunsAs pid ∨ session.handle.status = .stopped ∧ session.hasExited pid

/-- How an attempt stands in each stage, and what was spawned since earlier spawns. -/
inductive Undertakes (session : Session) (earlier : List Deed) : Stage → Prop
  | asks (none : session.books.engagements = earlier) : Undertakes session earlier .attempt
  | connects {directory : Path} {pid : Pid}
      (tries : session.Tries earlier directory (some pid)) :
      Undertakes session earlier (.awaitSpawn pid)
  | reads {directory : Path} {pid : Pid} (tries : session.Tries earlier directory (some pid))
      (readiness : Readiness) : Undertakes session earlier (.awaitReady pid readiness)
  | closes {directory : Path} {pid : Pid} (tries : session.Tries earlier directory (some pid)) :
      Undertakes session earlier (.awaitCode pid)
  | returned {directory : Path} {pid : Pid} (tries : session.Tries earlier directory (some pid))
      (ran : session.RanAs pid) (text : Option String) :
      Undertakes session earlier (.ended (.returned text))
  | failed {fault : Fault} (fails : session.Fails earlier fault)
      (stopped : session.handle.status = .stopped) :
      Undertakes session earlier (.ended (.failed fault))

/-- The attempt stands as its stage tells. -/
def IsUndertaken (session : Session) (earlier : List Deed) (attempt : TaskId) : Prop :=
  ∃ stage, session.stage? attempt = some stage ∧ session.Undertakes earlier stage

section Keeping

variable {session after : Session} {earlier : List Deed} {directory : Path} {result : Option Pid}
  {fault : Fault} {stage : Stage}

theorem Tries.keep (tries : session.Tries earlier directory result)
    (books : after.books.engagements = session.books.engagements)
    (settings : after.handle.settings = session.handle.settings) :
    after.Tries earlier directory result := by
  rw [Tries, books, settings]
  exact tries

theorem Fails.keep (fails : session.Fails earlier fault)
    (books : after.books.engagements = session.books.engagements)
    (settings : after.handle.settings = session.handle.settings)
    (exits : ∀ pid code, session.world.exitCode? pid = some code →
      after.world.exitCode? pid = some code) : after.Fails earlier fault := by
  cases fails with
  | noDirectory error none =>
      rw [← settings]
      exact .noDirectory error (books.trans none)
  | noProcess error tries =>
      rw [← settings]
      exact .noProcess error (tries.keep books settings)
  | @exited directory pid code tries exited =>
      rw [← settings]
      exact .exited (tries.keep books settings) (exits pid code exited)

/-- What spawns nothing, and keeps a stopped daemon stopped, changes nothing for an attempt. -/
theorem Undertakes.keep (undertakes : session.Undertakes earlier stage)
    (books : after.books.engagements = session.books.engagements)
    (settings : after.handle.settings = session.handle.settings)
    (exits : ∀ pid code, session.world.exitCode? pid = some code →
      after.world.exitCode? pid = some code)
    (ran : stage.ending?.isSome → ∀ pid, session.RanAs pid → after.RanAs pid)
    (stopped : stage.ending?.isSome → session.handle.status = .stopped →
      after.handle.status = .stopped) : after.Undertakes earlier stage := by
  cases undertakes with
  | asks none => exact .asks (books.trans none)
  | connects tries => exact .connects (tries.keep books settings)
  | reads tries readiness => exact .reads (tries.keep books settings) readiness
  | closes tries => exact .closes (tries.keep books settings)
  | returned tries before text =>
      exact .returned (tries.keep books settings) (ran rfl _ before) text
  | failed fails before => exact .failed (fails.keep books settings exits) (stopped rfl before)

end Keeping

section Attempts

variable {session : Session} {id : TaskId} {pid : Pid} {earlier : List Deed} {directory : Path}
  {marker : String}

theorem isUndertaken_failWithCode (present : id < session.tasks.length)
    (tries : session.Tries earlier directory (some pid)) :
    (session.failWithCode id pid).IsUndertaken earlier id := by
  rw [failWithCode]
  split
  next code exited =>
    have ended : ((session.withProcess none).become .stopped).hasExited pid = true := by
      change session.hasExited pid = true
      rw [hasExited, World.hasExited, exited]
      rfl
    simp only [failAttempt, ended, if_true]
    refine ⟨_, stage?_moveTo_self present, .failed ?_ rfl⟩
    exact .exited (tries.keep (by simp) (by rfl)) exited
  next => exact ⟨_, stage?_moveTo_self present, .closes (tries.keep (by simp) (by rfl))⟩

theorem isUndertaken_readUntilReady (present : id < session.tasks.length)
    (usable : session.handle.settings.IsUsable)
    (readable : (session.world.errors pid).fault = none)
    (current : session.handle.process = some pid)
    (tries : session.Tries earlier directory (some pid)) (readiness : Readiness) :
    (session.readUntilReady id pid readiness).IsUndertaken earlier id := by
  obtain ⟨marker, marked, letters⟩ := usable.marked
  rw [readUntilReady, marked, readable]
  dsimp only
  have shows : marker.toList ≠ [] := by simpa using letters
  have unmarked := readiness.run_ne_emptyMarker shows (session.world.errors pid).coming
  generalize readiness.run marker.toList (session.world.errors pid).coming = read at unmarked
  generalize (session.world.errors pid).coming.take read.texts.length = taken
  generalize told : read.texts.foldl logChunk (session.takeChunks pid taken read.left) = logged
  have quiet : Quiet (session.takeChunks pid taken read.left) logged :=
    told ▸ Quiet.foldl_logChunk _ _
  have here : id < logged.tasks.length := quiet.tasks ▸ present
  have books : logged.books.engagements = session.books.engagements := by simp [← told]
  have known := tries.keep books quiet.settings
  split
  next decoder rest _ =>
    have runs : (logged.becomeReady id pid ⟨decoder, rest⟩).RunsAs pid := by
      obtain ⟨_, _, _, _, _, rfl, -, -⟩ := quiet
      exact ⟨rfl, current⟩
    exact ⟨_, stage?_becomeReady_self here,
      .returned (known.keep (by simp) (by rfl)) (.inl runs) none⟩
  next outcome => exact absurd outcome unmarked
  next later _ =>
    split
    next => exact isUndertaken_failWithCode here known
    next => exact ⟨_, stage?_moveTo_self here, .reads (known.keep (by rfl) (by rfl)) later⟩

theorem isUndertaken_attach (present : id < session.tasks.length)
    (usable : session.handle.settings.IsUsable)
    (readable : (session.world.errors pid).fault = none)
    (tries : session.Tries earlier directory (some pid)) :
    (session.attach id pid).IsUndertaken earlier id := by
  rw [attach]
  split
  next =>
    have attached : (session.withProcess (some pid)).Tries earlier directory (some pid) :=
      tries.keep rfl rfl
    have here : id < (session.withProcess (some pid)).tasks.length := present
    exact isUndertaken_readUntilReady here usable readable rfl attached {}
  next => exact ⟨_, stage?_moveTo_self present, .connects (tries.keep (by rfl) (by rfl))⟩

/-- A new process has written nothing to its diagnostics. -/
theorem SpawnsAs.errors {after : Session} {role : Role} {arguments : List String}
    {input output errors : Connection} (numbered : session.world.IsNumbered)
    (spawns : session.SpawnsAs id role arguments input output errors (.ok pid) after) :
    after.world.errors pid = {} := by
  obtain ⟨process, rfl, recruit, grown⟩ := spawns.grown
  rw [grown.errors]
  change (session.world.enlist process).errors process.pid = {}
  rw [World.errors, World.process?_enlist numbered recruit.next]
  exact recruit.silent

theorem SpawnsAs.answered {after : Session} {role : Role} {arguments : List String}
    {input output errors : Connection} {result : Except Fault Pid}
    (spawns : session.SpawnsAs id role arguments input output errors result after) :
    (session.world.spawn id role arguments).1 = result := by
  obtain ⟨severity, message, spawned⟩ := spawns
  exact congrArg Prod.fst spawned

theorem isUndertaken_launch (present : id < session.tasks.length)
    (usable : session.handle.settings.IsUsable) (fair : session.world.IsFair)
    (numbered : session.world.IsNumbered) (none : session.books.engagements = earlier)
    (directory : Path) : (session.launch id directory).IsUndertaken earlier id := by
  cases launch_launches session id directory with
  | @refused error tried spawns runs =>
      have same : tried.handle.settings = session.handle.settings :=
        congrArg Handle.settings spawns.handle
      have here : id < tried.tasks.length := spawns.tasks ▸ present
      have tries : tried.Tries earlier directory Option.none := by
        rw [Tries, spawns.books_refused, same, ← none]
        rfl
      rw [runs, ← same]
      exact ⟨_, stage?_moveTo_self here,
        .failed (.noProcess error (tries.keep (by simp) (by rfl))) rfl⟩
  | unfit spawns odd runs =>
      obtain ⟨error, rfl⟩ := fair.system_of_spawn spawns.answered
      exact absurd rfl (odd error)
  | @hired pid tried spawns runs =>
      have same : tried.handle.settings = session.handle.settings :=
        congrArg Handle.settings spawns.handle
      have here : id < tried.tasks.length := spawns.tasks ▸ present
      have tries : tried.Tries earlier directory (some pid) := by
        rw [Tries, spawns.books_hired.2, same, ← none]
        rfl
      have readable : (tried.world.errors pid).fault = Option.none := by
        rw [spawns.errors numbered]
      exact runs ▸ isUndertaken_attach here (same.symm ▸ usable) readable tries

theorem isUndertaken_runAttempt (present : id < session.tasks.length)
    (usable : session.handle.settings.IsUsable) (fair : session.world.IsFair)
    (numbered : session.world.IsNumbered) (none : session.books.engagements = earlier) :
    (session.runAttempt id).IsUndertaken earlier id := by
  let entering := session.become .starting
  have here : id < entering.tasks.length := present
  have books : entering.books.engagements = earlier := by simpa [entering] using none
  cases runAttempt_attempts session id with
  | reuses current runs => exact runs ▸ isUndertaken_launch here usable fair numbered books _
  | @makes directory disk vacant made runs =>
      have still : id < ((entering.onDisk disk).adopt directory).tasks.length := here
      rw [runs]
      exact isUndertaken_launch still usable ⟨fair.plans, fair.readable⟩ numbered books directory
  | @refused error disk vacant made runs =>
      have silent : ((entering.onDisk disk).become .stopped).books.engagements = earlier := by
        rw [books_become]
        exact books
      rw [runs]
      exact ⟨_, stage?_moveTo_self here, .failed (.noDirectory error silent) rfl⟩
  | unfit vacant made odd runs =>
      obtain ⟨error, rfl⟩ := Disk.system_of_makeInitDirectory usable.rooted (congrArg Prod.fst made)
      exact absurd rfl (odd error)

/-- An attempt that goes on stands as its next stage tells. -/
theorem isUndertaken_resume {phase : Phase} (stands : session.Stands phase)
    (usable : session.handle.settings.IsUsable) (fair : session.world.IsFair)
    (undertaken : session.IsUndertaken earlier id) :
    (session.resume id).IsUndertaken earlier id := by
  obtain ⟨stage, found, undertakes⟩ := undertaken
  have present := lt_of_stage? found
  have readable {pid : Pid} (about : phase.pid? = some pid) :
      (session.world.errors pid).fault = none := by
    obtain ⟨process, there, daemon⟩ := stands.daemon about
    exact fair.fault there daemon
  have same : session.resume id = session.proceed id stage := by
    rw [resume_of_stage found]
    split
    next => cases undertakes <;> rfl
    next => rfl
  rw [same]
  cases undertakes with
  | asks none => exact isUndertaken_runAttempt present usable fair stands.numbered none
  | connects tries =>
      have spawning := stands.eq_of_stage? found rfl
      exact isUndertaken_attach present usable (readable (spawning ▸ rfl)) tries
  | @reads directory pid tries readiness =>
      have waking := stands.eq_of_stage? found rfl
      subst waking
      exact isUndertaken_readUntilReady present usable (readable rfl) stands.process tries readiness
  | closes tries => exact isUndertaken_failWithCode present tries
  | returned tries ran text => exact ⟨_, found, .returned tries ran text⟩
  | failed fails stopped => exact ⟨_, found, .failed fails stopped⟩

end Attempts

end Session

end EmacsSession
