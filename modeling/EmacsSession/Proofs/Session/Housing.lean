/-
This file shows which init directories the daemons are spawned with, and when these are made and
removed.
-/

import EmacsSession.Proofs.Session.EvaluateCall
import EmacsSession.Proofs.Session.House
import Mathlib.Data.List.Induction

namespace EmacsSession

namespace Session

/-- The init directory of a session, the tree, the processes, and the deeds that are no routine. -/
def house (session : Session) : House :=
  ⟨session.record.directory, session.record.tree, session.record.badges, session.record.deeds⟩

section House

variable {session after : Session} {settings : Settings} {id : TaskId} {pid : Pid}

/-- What leaves no trace on record leaves the house as it is. -/
theorem house_of_record (same : after.record = session.record) : after.house = session.house := by
  rw [house, same, house]

/-- A spawn is noted, with the process if there is a new one. -/
theorem SpawnsAs.house {role : Role} {arguments : List String} {input output errors : Connection}
    {result : Except Fault Pid}
    (spawns : session.SpawnsAs id role arguments input output errors result after) :
    ∃ badge, (∀ worker ∈ badge, worker.role = role ∧ worker.arguments = arguments) ∧
      after.house = session.house.engage badge arguments input output errors := by
  obtain ⟨severity, message, hiring⟩ := spawns.hiring
  have logs : (session.log severity message).house = session.house :=
    house_of_record (record_logged session _ _)
  rw [← logs]
  cases hiring with
  | refused fault plans =>
      refine ⟨none, by simp, ?_⟩
      rw [House.engage, Option.toList_none, List.append_nil]
      rfl
  | hired process recruit plans =>
      refine ⟨some process.badge, ?_, ?_⟩
      · rintro worker ⟨⟩
        exact ⟨recruit.role, recruit.arguments⟩
      · rw [Session.house, record]
        simp only [note, World.enlist, List.map_append]
        rfl

theorem launch_house (session : Session) (id : TaskId) (directory : Path) :
    session.house.Hires session.handle.settings directory (session.launch id directory).house := by
  cases launch_launches session id directory with
  | refused spawns runs =>
      obtain ⟨badge, own, engaged⟩ := spawns.house
      exact ⟨badge, own, runs ▸ engaged⟩
  | unfit spawns odd runs =>
      obtain ⟨badge, own, engaged⟩ := spawns.house
      exact ⟨badge, own, runs ▸ engaged⟩
  | hired spawns runs =>
      obtain ⟨badge, own, engaged⟩ := spawns.house
      rw [runs, house_of_record (record_attach _ id _)]
      exact ⟨badge, own, engaged⟩

/-- An attempt that begins spawns a daemon, or fails. -/
theorem runAttempt_house (present : id < session.tasks.length) :
    session.house.Begins session.handle.settings (session.runAttempt id).house
      (∃ fault, (session.runAttempt id).ending? id = some (.failed fault)) := by
  let entering := session.become .starting
  have entered : entering.house = session.house :=
    house_of_record (record_become session .starting)
  have here : id < entering.tasks.length := present
  rw [← entered]
  cases runAttempt_attempts session id with
  | @reuses directory current runs =>
      exact runs ▸ .reuse current (launch_house entering id directory)
  | @makes directory disk vacant made runs =>
      exact runs ▸ .make vacant (Disk.gains_of_makeInitDirectory made)
        (launch_house ((entering.onDisk disk).adopt directory) id directory)
  | refused vacant made runs =>
      exact runs ▸ .fail vacant (Disk.grows_of_makeInitDirectory made) rfl
        ⟨_, ending?_eq_some.mpr (stage?_moveTo_self here)⟩
  | unfit vacant made odd runs =>
      exact runs ▸ .fail vacant (Disk.grows_of_makeInitDirectory made) rfl
        ⟨_, ending?_eq_some.mpr (stage?_moveTo_self here)⟩

theorem attachClient_house (session : Session) (settings : Settings) (id : TaskId) (pid : Pid)
    (input : Value) :
    House.Entries settings session.house (session.attachClient id pid input).house := by
  cases attachClient_attaches session id pid input with
  | waits runs => exact runs ▸ .refl
  | @gives octets read runs =>
      have gives : House.Entry settings session.house (session.house.give pid octets) :=
        .give pid octets
      exact runs ▸ .single gives
  | abandons unreadable runs => rw [runs, house_of_record (record_abandonClient session id pid _)]

theorem runEvaluate_house (session : Session) (settings : Settings) (id : TaskId)
    (form input : Value) :
    House.Entries settings session.house (session.runEvaluate id form input).house := by
  have calls {code : String} {result : Except Fault Pid} {tried : Session}
      (spawns : session.SpawnsClient id code input result tried) :
      House.Entries settings session.house tried.house := by
    obtain ⟨badge, own, engaged⟩ := spawns.house
    rw [engaged]
    exact .single (.call badge (fun client member => (own client member).1) _ _)
  cases runEvaluate_asks session id form input with
  | notStarted idle runs => exact runs ▸ .refl
  | unprintable running unprintable runs => exact runs ▸ .refl
  | refused running printed spawns runs =>
      have noted := calls spawns
      exact runs ▸ noted
  | hired running printed spawns runs =>
      exact runs ▸ (calls spawns).trans (attachClient_house _ settings id _ input)

/-- What a task notes when it goes on. -/
theorem resume_house (same : session.handle.settings = settings) :
    House.Entries settings session.house (session.resume id).house := by
  cases resume_trace session id with
  | none same => rw [house_of_record same]
  | attempt begins runs => exact runs ▸ same ▸ (runAttempt_house (lt_of_stage? begins)).entries
  | evaluate asks runs => exact runs ▸ runEvaluate_house session settings id _ _
  | attach waits runs => exact runs ▸ attachClient_house session settings id _ _

end House

/-- What a move notes: what the task does that goes on, or the removal of the init directory, or
nothing. -/
inductive Notes (session after : Session) (move : Move) (settings : Settings) : Prop
  | turn (entries : House.Entries settings session.house after.house)
  | removal {directory : Path} (asks : move = .event .discardDirectory)
      (removes : session.discardDirectory.1 = .ok ())
      (current : session.handle.initDirectory = some directory)
      (loses : session.world.disk.tree.Loses after.world.disk.tree directory)
      (leaves : after.house = session.house.leave directory after.world.disk.tree)

section Moves

variable {session : Session} {phase : Phase} {settings : Settings}

/-- The init directory is removed, or handle and house stay as they are. -/
theorem discardDirectory_house (session : Session) :
    session.discardDirectory.2.house = session.house ∧
        session.discardDirectory.2.handle = session.handle ∨
      ∃ directory, session.discardDirectory.1 = .ok () ∧
        session.handle.initDirectory = some directory ∧
        session.world.disk.tree.Loses session.discardDirectory.2.world.disk.tree directory ∧
        session.discardDirectory.2.house =
          session.house.leave directory session.discardDirectory.2.world.disk.tree := by
  rw [discardDirectory]
  split
  next => exact .inl ⟨rfl, rfl⟩
  next =>
    split
    next => exact .inl ⟨rfl, rfl⟩
    next directory current =>
      cases discards : session.world.disk.discardDirectory directory with
      | mk result disk =>
          cases result with
          | error fault =>
              have same : disk.tree = session.world.disk.tree :=
                Disk.tree_of_discardDirectory discards
              exact .inl ⟨congrArg session.house.grow same, rfl⟩
          | ok nothing =>
              exact .inr ⟨directory, rfl, current, Disk.loses_of_discardDirectory discards, rfl⟩

theorem move_notes (same : session.handle.settings = settings) (move : Move) :
    session.Notes (session.move move) move settings := by
  cases moves : session.mover move with
  | some id =>
      obtain ⟨ready, turn⟩ := move_eq moves
      let queue := { session with ready := session.ready.erase id }
      have goes : House.Entries settings queue.house (queue.resume id).house :=
        resume_house same
      rw [turn]
      exact .turn goes
  | none =>
      cases move with
      | turn id =>
          rw [move_of_idle moves]
          exact .turn .refl
      | event event =>
          by_cases other : event = .discardDirectory
          · subst other
            rcases discardDirectory_house session with
              ⟨still, -⟩ | ⟨_, removes, current, loses, leaves⟩
            · have kept : (session.move (.event .discardDirectory)).house = session.house := still
              exact .turn (kept ▸ .refl)
            · exact .removal rfl removes current loses leaves
          · obtain ⟨directory, tree, badges, deeds⟩ := record_receive session moves other
            have still : (session.move (.event event)).house = session.house := by
              rw [show (session.move (.event event)).house = (session.receive event).house from rfl,
                house, directory, tree, badges, deeds, house]
            exact .turn (still ▸ .refl)

/-- An attempt begins by the first move by which it goes on. -/
theorem begins_of_move {id : TaskId} {move : Move} (moves : session.mover move = some id)
    (found : session.stage? id = some .attempt) :
    session.house.Begins session.handle.settings (session.move move).house
      (∃ fault, (session.move move).ending? id = some (.failed fault)) := by
  obtain ⟨ready, turn⟩ := move_eq moves
  let queue := { session with ready := session.ready.erase id }
  have standing : queue.stage? id = some .attempt := found
  have resumes : queue.resume id = queue.runAttempt id := by
    rw [resume_of_stage standing]
    split <;> rfl
  rw [turn, resumes]
  exact runAttempt_house (lt_of_stage? standing)

theorem lawful_of_move (lawful : session.house.IsLawful settings)
    (same : session.handle.settings = settings) (move : Move) :
    (session.move move).house.IsLawful settings := by
  cases move_notes same move with
  | turn entries => exact lawful.entries entries
  | removal asks removes current loses leaves =>
      rw [leaves]
      exact lawful.leave current _

theorem lawful_of_follow (lawful : session.house.IsLawful settings) (stands : session.Stands phase)
    (same : session.handle.settings = settings) (moves : List Move) :
    (session.follow moves).house.IsLawful settings := by
  let holds (later : Session) := later.house.IsLawful settings ∧ later.handle.settings = settings
  have kept : holds (session.follow moves) :=
    keep_of_moves holds stands ⟨lawful, same⟩ (fun standing held move =>
      ⟨lawful_of_move held.1 held.2 move, (settings_of_move standing move).trans held.2⟩) moves
  exact kept.1

end Moves

/-- The removals of the init directory, last one first. -/
def removals (session : Session) : List Deed :=
  session.deeds.filter Deed.isRemoval

/-- The init directories that were made, last one first. -/
def makings (session : Session) : List Deed :=
  session.deeds.filter Deed.isMaking

/-- The deed is the spawn of a daemon with this init directory, which is that of the process if
there is one. -/
def Houses (session : Session) (settings : Settings) (directory : Path) (deed : Deed) : Prop :=
  ∃ result, deed = .spawned result
      (settings.emacs ++ ["--fg-daemon=" ++ settings.name, "--init-directory=" ++ directory.text])
      .nothing .nothing .pipe ∧
    ∀ pid, result = some pid → ∃ process, session.world.process? pid = some process ∧
      process.role = .daemon directory

/-- The daemons of a session are spawned with an init directory that is made in the tree when there
is none, and kept until it is removed. Deeds are listed last one first. -/
structure IsHoused (session : Session) (settings : Settings) : Prop where
  /-- An init directory is made only where there is none. It is new and in the tree when that is
  noted, and is the init directory from then on. -/
  making : ∀ move, (session.move move).makings ≠ session.makings →
    session.handle.initDirectory = none ∧ ∃ directory,
      session.world.disk.tree.Gains (session.move move).world.disk.tree directory ∧
      (session.move move).handle.initDirectory = some directory ∧
      (session.move move).makings = .madeDirectory directory :: session.makings
  /-- As long as there is an init directory it is in the tree. -/
  holds : ∀ directory, session.handle.initDirectory = some directory →
    session.world.disk.tree.Holds directory
  /-- Every daemon was spawned with the name of the handle, and with its own init directory, which
  was made before. -/
  spawned : ∀ pid process directory, session.world.process? pid = some process →
    process.role = .daemon directory →
      process.arguments = settings.emacs ++
        ["--fg-daemon=" ++ settings.name, "--init-directory=" ++ directory.text] ∧
      ∃ later earlier, session.deeds =
          later ++ .spawned (some pid) process.arguments .nothing .nothing .pipe :: earlier ∧
        .madeDirectory directory ∈ earlier
  /-- Wherever a daemon is spawned, or a spawn is refused, its init directory was made before, and
  not removed since. -/
  made : ∀ later hiring earlier, session.deeds = later ++ hiring :: earlier → hiring.isHiring →
    ∃ directory since before, session.Houses settings directory hiring ∧
      earlier = since ++ .madeDirectory directory :: before ∧
        ∀ deed ∈ since, deed.isRemoval = false
  /-- Two daemons between which no init directory is removed are spawned with the same one. -/
  shared : ∀ later second between first earlier,
    session.deeds = later ++ second :: (between ++ first :: earlier) → first.isHiring →
      second.isHiring → (∀ deed ∈ between, deed.isRemoval = false) →
        ∃ directory, session.Houses settings directory first ∧
          session.Houses settings directory second
  /-- Between two init directories that are made one is removed. -/
  once : ∀ later second between first earlier,
    session.deeds = later ++ .madeDirectory second :: (between ++ .madeDirectory first :: earlier) →
      ∃ deed ∈ between, deed.isRemoval
  /-- An attempt that begins spawns a daemon with the init directory that there is. Where there is
  none it makes one before, or fails and spawns nothing. -/
  begins : ∀ move id, session.mover move = some id → session.stage? id = some .attempt →
    match session.handle.initDirectory with
    | some directory => ∃ hiring, (session.move move).Houses settings directory hiring ∧
        (session.move move).record.deeds = hiring :: session.record.deeds
    | none =>
        (∃ directory, session.world.disk.tree.Gains (session.move move).world.disk.tree directory ∧
          ∃ hiring, (session.move move).Houses settings directory hiring ∧
            (session.move move).record.deeds =
              hiring :: .madeDirectory directory :: session.record.deeds) ∨
        (session.move move).record.deeds = session.record.deeds ∧
          ∃ fault, (session.move move).ending? id = some (.failed fault)
  /-- An init directory is removed only where that is asked for and succeeds. It is lost with all
  that it holds then. -/
  removal : ∀ move, (session.move move).removals ≠ session.removals →
    move = .event .discardDirectory ∧ session.discardDirectory.1 = .ok () ∧
      ∃ directory, session.handle.initDirectory = some directory ∧
        session.world.disk.tree.Loses (session.move move).world.disk.tree directory ∧
        (session.move move).removals = .removedDirectory directory :: session.removals ∧
        (session.move move).handle.initDirectory = none
  /-- A removal that fails leaves the handle as it is. -/
  refusal : ∀ fault, session.discardDirectory.1 = .error fault →
    (session.move (.event .discardDirectory)).handle = session.handle

section Housing

variable {session : Session} {phase : Phase} {settings : Settings}

theorem houses_of_hiresIn {directory : Path} {deed : Deed} (stands : session.Stands phase)
    (hires : deed.HiresIn settings session.house.badges directory) :
    session.Houses settings directory deed := by
  obtain ⟨result, same, known⟩ := hires
  refine ⟨result, same, fun pid spawned => ?_⟩
  obtain ⟨badge, member, rfl, role⟩ := known pid spawned
  obtain ⟨process, present, rfl⟩ := List.mem_map.mp member
  exact ⟨process, stands.numbered.process? present, role⟩

/-- All deeds fit the init directory that the earlier ones leave, routine or not. -/
theorem legal_of_lawful (lawful : session.house.IsLawful settings) :
    Deed.AreLegal settings session.house.badges session.deeds :=
  lawful.legal.of_filter

theorem hires_of_legal {badges : List Badge} {earlier : List Deed} {hiring : Deed}
    (legal : Deed.AreLegal settings badges (hiring :: earlier)) (hires : hiring.isHiring) :
    ∃ directory, Deed.current? earlier = some directory ∧
      hiring.HiresIn settings badges directory := by
  obtain ⟨fits, -⟩ := legal
  cases hiring with
  | spawned result arguments input output errors =>
      cases output with
      | pipe => cases hires
      | nothing => exact fits
  | _ => cases hires

theorem removals_eq (session : Session) :
    session.removals = session.house.deeds.filter Deed.isRemoval :=
  session.filter_deeds fun deed removes => by cases deed <;> first | rfl | cases removes

theorem makings_eq (session : Session) : session.makings = session.house.makings :=
  session.filter_deeds fun deed makes => by cases deed <;> first | rfl | cases makes

theorem isHoused_of_lawful (lawful : session.house.IsLawful settings)
    (stands : session.Stands phase) (same : session.handle.settings = settings) :
    session.IsHoused settings := by
  have legal := legal_of_lawful lawful
  have made (later : List Deed) (hiring : Deed) (earlier : List Deed)
      (split : session.deeds = later ++ hiring :: earlier) (hires : hiring.isHiring) :
      ∃ directory since before, session.Houses settings directory hiring ∧
        earlier = since ++ .madeDirectory directory :: before ∧
          ∀ deed ∈ since, deed.isRemoval = false := by
    rw [split] at legal
    obtain ⟨directory, current, own⟩ := hires_of_legal legal.tail hires
    obtain ⟨since, before, made, kept⟩ := Deed.made_of_current? current
    exact ⟨directory, since, before, houses_of_hiresIn stands own, made, kept⟩
  refine ⟨?_, lawful.holds, ?_, made, ?_, ?_, ?_, ?_, ?_⟩
  · intro move changes
    rw [makings_eq, makings_eq] at changes ⊢
    cases move_notes same move with
    | turn entries =>
        cases entries.yields with
        | nothing grows still none => exact absurd none changes
        | directory vacant current gains makes => exact ⟨vacant, _, gains, current, makes⟩
    | removal asks removes current loses leaves =>
        rw [leaves] at changes
        exact absurd rfl changes
  · intro pid process directory found role
    have member : process.badge ∈ session.house.badges :=
      List.mem_map_of_mem (List.mem_of_find?_eq_some found)
    obtain ⟨arguments, deed⟩ := lawful.known _ member directory role
    have number : process.badge.pid = pid := World.process?_pid found
    rw [number] at deed
    obtain ⟨later, earlier, split⟩ := List.append_of_mem (List.mem_of_mem_filter deed)
    obtain ⟨other, since, before, ⟨_, hired, own⟩, rfl, -⟩ := made later _ earlier split rfl
    obtain ⟨same, present, here⟩ := own pid (Deed.spawned.inj hired).1.symm
    cases found.symm.trans present
    cases role.symm.trans here
    exact ⟨arguments, later, _, split, by simp⟩
  · intro later second between first earlier split one two kept
    rw [split] at legal
    obtain ⟨directory, current, own⟩ := hires_of_legal legal.tail two
    have before := legal.tail.2
    obtain ⟨other, now, mine⟩ := hires_of_legal before.tail one
    have still : Deed.current? (first :: earlier) = some other :=
      (Deed.current?_of_isHiring one).trans now
    cases current.symm.trans (before.current? still kept)
    exact ⟨directory, houses_of_hiresIn stands mine, houses_of_hiresIn stands own⟩
  · intro later second between first earlier split
    rw [split] at legal
    obtain ⟨vacant, before⟩ := legal.tail
    by_contra none
    have kept : ∀ deed ∈ between, deed.isRemoval = false := by simpa using none
    cases vacant.symm.trans (before.current? rfl kept)
  · intro move id moves found
    obtain ⟨next, standing⟩ := stands.move move
    have begins := begins_of_move moves found
    rw [same] at begins
    have hiring {house : House} {directory : Path}
        (hires : house.Hires settings directory (session.move move).house) :
        ∃ hiring, (session.move move).Houses settings directory hiring ∧
          (session.move move).record.deeds = hiring :: house.deeds := by
      obtain ⟨badge, own, after⟩ := hires
      have fits := house.hiresIn_engage own
      refine ⟨_, houses_of_hiresIn standing ?_, congrArg House.deeds after⟩
      rwa [after]
    cases begins with
    | reuse current hires =>
        rw [show session.handle.initDirectory = _ from current]
        exact hiring hires
    | make vacant gains hires =>
        obtain ⟨badge, own, after⟩ := hires
        rw [show session.handle.initDirectory = _ from vacant]
        refine .inl ⟨_, ?_, hiring ⟨badge, own, after⟩⟩
        rw [show (session.move move).world.disk.tree = _ from congrArg House.tree after]
        exact gains
    | fail vacant grows still fails =>
        rw [show session.handle.initDirectory = _ from vacant]
        exact .inr ⟨congrArg House.deeds still, fails⟩
  · intro move changes
    rw [removals_eq, removals_eq] at changes ⊢
    cases move_notes same move with
    | turn entries => exact absurd entries.removals changes
    | removal asks removes current loses leaves =>
        refine ⟨asks, removes, _, current, loses, ?_, congrArg House.directory leaves⟩
        rw [leaves]
        rfl
  · intro fault fails
    rcases discardDirectory_house session with ⟨-, kept⟩ | ⟨directory, removes, -⟩
    · exact kept
    · cases fails.symm.trans removes

end Housing

section Runs

theorem isHoused_of_follow (settings : Settings) (tree : Tree) (moves : List Move) :
    ((fresh settings tree).follow moves).IsHoused settings := by
  have rests := fresh_stands settings tree
  have begins : (fresh settings tree).house.IsLawful settings := ⟨rfl, nofun, trivial, nofun⟩
  obtain ⟨phase, stands⟩ := rests.follow moves
  exact isHoused_of_lawful (lawful_of_follow begins rests rfl moves) stands
    (settings_of_follow rests moves)

/-- Every init directory that is noted as made has come into the tree by a move of the run, and was
new there. -/
def IsFurnished (start : Session) (moves : List Move) : Prop :=
  ∀ directory, .madeDirectory directory ∈ (start.follow moves).deeds →
    ∃ before move since, moves = before ++ move :: since ∧
      (start.follow before).world.disk.tree.Gains
        ((start.follow before).move move).world.disk.tree directory

theorem mem_makings {session : Session} {directory : Path} :
    .madeDirectory directory ∈ session.makings ↔ .madeDirectory directory ∈ session.deeds := by
  rw [makings, List.mem_filter]
  exact and_iff_left rfl

theorem isFurnished_of_follow (settings : Settings) (tree : Tree) (moves : List Move) :
    (fresh settings tree).IsFurnished moves := by
  induction moves using List.reverseRecOn with
  | nil => nofun
  | append_singleton moves move inductionHypothesis =>
      intro directory noted
      have housed := isHoused_of_follow settings tree moves
      rw [follow_concat, ← mem_makings] at noted
      refine exists_split_concat.mpr ?_
      by_cases same : ((fresh settings tree).follow moves |>.move move).makings =
          ((fresh settings tree).follow moves).makings
      · rw [same, mem_makings] at noted
        exact .inl (inductionHypothesis directory noted)
      · obtain ⟨-, made, gains, -, makes⟩ := housed.making move same
        rw [makes] at noted
        cases noted with
        | head => exact .inr gains
        | tail _ old => exact .inl (inductionHypothesis directory (mem_makings.mp old))

/-- Throughout every run, daemons are spawned with the init directory that was made last, and no
other one is made until that is removed, whatever is called, fails, ends and begins again. Each init
directory was new when it was made, and is in the tree from then on until it is removed. -/
theorem follow_isHoused (settings : Settings) (tree : Tree) (moves : List Move) :
    ((fresh settings tree).follow moves).IsHoused settings ∧
      (fresh settings tree).IsFurnished moves :=
  ⟨isHoused_of_follow settings tree moves, isFurnished_of_follow settings tree moves⟩

end Runs

end Session

end EmacsSession
