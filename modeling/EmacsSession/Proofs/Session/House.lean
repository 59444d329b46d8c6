/-
This file defines which deeds may follow one another about the init directory, and shows what they
tell of it.
-/

import EmacsSession.Proofs.Disk
import EmacsSession.Proofs.Session.Record

namespace EmacsSession

namespace Deed

/-- The spawn of a daemon. The output of a daemon goes nowhere, that of a client into a pipe. -/
def isHiring : Deed → Bool
  | .spawned _ _ _ .nothing _ => true
  | _ => false

/-- The init directory is removed. -/
def isRemoval : Deed → Bool
  | .removedDirectory _ => true
  | _ => false

/-- An init directory is made. -/
def isMaking : Deed → Bool
  | .madeDirectory _ => true
  | _ => false

/-- The init directory that deeds leave, last one first. -/
def current? : List Deed → Option Path
  | [] => none
  | .madeDirectory directory :: _ => some directory
  | .removedDirectory _ :: _ => none
  | _ :: earlier => current? earlier

/-- The spawn of a daemon with this init directory, which is that of the process if there is one. -/
def HiresIn (settings : Settings) (badges : List Badge) (directory : Path) (deed : Deed) : Prop :=
  ∃ result, deed = .spawned result (Session.daemonArguments settings directory)
      .nothing .nothing .pipe ∧
    ∀ pid, result = some pid → ∃ badge ∈ badges, badge.pid = pid ∧ badge.role = .daemon directory

/-- A deed that may be done while this is the init directory. -/
def Fits (settings : Settings) (badges : List Badge) (current : Option Path) (deed : Deed) : Prop :=
  match deed with
  | .madeDirectory _ => current = none
  | .removedDirectory directory => current = some directory
  | .spawned _ _ _ .nothing _ => ∃ directory, current = some directory ∧
      deed.HiresIn settings badges directory
  | _ => True

/-- Each deed fits the init directory that the earlier ones leave. -/
def AreLegal (settings : Settings) (badges : List Badge) : List Deed → Prop
  | [] => True
  | deed :: earlier =>
      deed.Fits settings badges (current? earlier) ∧ AreLegal settings badges earlier

section Legal

variable {settings : Settings} {badges : List Badge} {deed : Deed} {directory : Path}
  {deeds earlier later between : List Deed}

theorem current?_cons (other : deed.isRemoval = false)
    (still : ∀ directory, deed ≠ .madeDirectory directory) :
    current? (deed :: earlier) = current? earlier := by
  cases deed with
  | madeDirectory directory => exact absurd rfl (still directory)
  | removedDirectory directory => cases other
  | _ => rfl

theorem current?_of_isHiring (hires : deed.isHiring) :
    current? (deed :: earlier) = current? earlier := by
  cases deed <;> first | rfl | cases hires

/-- The init directory was made by a deed since which none was removed. -/
theorem made_of_current? (current : current? deeds = some directory) :
    ∃ since before, deeds = since ++ .madeDirectory directory :: before ∧
      ∀ deed ∈ since, deed.isRemoval = false := by
  induction deeds with
  | nil => cases current
  | cons deed earlier inductionHypothesis =>
      cases deed with
      | madeDirectory made =>
          cases current
          exact ⟨[], earlier, rfl, nofun⟩
      | removedDirectory removed => cases current
      | _ =>
          obtain ⟨since, before, rfl, kept⟩ := inductionHypothesis current
          refine ⟨_ :: since, before, rfl, fun deed member => ?_⟩
          rcases List.mem_cons.mp member with rfl | old
          · rfl
          · exact kept deed old

theorem AreLegal.tail (legal : AreLegal settings badges (later ++ earlier)) :
    AreLegal settings badges earlier := by
  induction later with
  | nil => exact legal
  | cons deed later inductionHypothesis => exact inductionHypothesis legal.2

/-- An init directory stays the same as long as none is removed. -/
theorem AreLegal.current? (legal : AreLegal settings badges (between ++ earlier))
    (current : current? earlier = some directory)
    (kept : ∀ deed ∈ between, deed.isRemoval = false) :
    current? (between ++ earlier) = some directory := by
  induction between with
  | nil => exact current
  | cons deed between inductionHypothesis =>
      have still := inductionHypothesis legal.2 fun deed member =>
        kept deed (List.mem_cons_of_mem _ member)
      rw [List.cons_append, current?_cons (kept deed List.mem_cons_self), still]
      rintro made rfl
      cases still.symm.trans legal.1

theorem Fits.more {current : Option Path} (fits : deed.Fits settings badges current)
    (more : List Badge) : deed.Fits settings (badges ++ more) current := by
  cases deed with
  | spawned result arguments input output errors =>
      cases output with
      | pipe => trivial
      | nothing =>
          obtain ⟨directory, current, known, same, hired⟩ := fits
          refine ⟨directory, current, known, same, fun pid spawned => ?_⟩
          obtain ⟨badge, member, own⟩ := hired pid spawned
          exact ⟨badge, List.mem_append_left more member, own⟩
  | _ => exact fits

theorem AreLegal.more (legal : AreLegal settings badges deeds) (more : List Badge) :
    AreLegal settings (badges ++ more) deeds := by
  induction deeds with
  | nil => trivial
  | cons deed earlier inductionHypothesis =>
      exact ⟨legal.1.more more, inductionHypothesis legal.2⟩

/-- Routine deeds have nothing to do with the init directory. -/
theorem current?_filter (deeds : List Deed) :
    Deed.current? (deeds.filter fun deed => !deed.isRoutine) = Deed.current? deeds := by
  induction deeds with
  | nil => rfl
  | cons deed earlier inductionHypothesis => cases deed <;> first | rfl | exact inductionHypothesis

theorem AreLegal.of_filter
    (legal : AreLegal settings badges (deeds.filter fun deed => !deed.isRoutine)) :
    AreLegal settings badges deeds := by
  induction deeds with
  | nil => trivial
  | cons deed earlier inductionHypothesis =>
      cases routine : deed.isRoutine with
      | true =>
          rw [List.filter_cons_of_neg (by simp [routine])] at legal
          refine ⟨?_, inductionHypothesis legal⟩
          cases deed <;> trivial
      | false =>
          rw [List.filter_cons_of_pos (by simp [routine])] at legal
          obtain ⟨fits, before⟩ := legal
          rw [current?_filter] at fits
          exact ⟨fits, inductionHypothesis before⟩

end Legal

end Deed

/-- The init directory, the tree in which it is made, the processes in the order in which they were
spawned, and the deeds that are no routine, last one first. -/
structure House where
  directory : Option Path
  tree : Tree
  badges : List Badge
  deeds : List Deed

namespace House

/-- Directories are made in the tree. -/
def grow (house : House) (tree : Tree) : House :=
  { house with tree := tree }

/-- A new init directory is noted, and the tree that it was made in. -/
def make (house : House) (directory : Path) (tree : Tree) : House :=
  { house.grow tree with
    directory := some directory
    deeds := .madeDirectory directory :: house.deeds }

/-- A spawn is noted, with the badge of the process if there is one. -/
def engage (house : House) (badge : Option Badge) (arguments : List String)
    (input output errors : Connection) : House :=
  { house with
    badges := house.badges ++ badge.toList
    deeds := .spawned (badge.map Badge.pid) arguments input output errors :: house.deeds }

/-- An input is noted. -/
def give (house : House) (pid : Pid) (octets : Option (List UInt8)) : House :=
  { house with deeds := .gaveInput pid octets :: house.deeds }

/-- The removal of the init directory is noted, and the tree that is left. -/
def leave (house : House) (directory : Path) (tree : Tree) : House :=
  { house with
    directory := none
    tree := tree
    deeds := .removedDirectory directory :: house.deeds }

/-- The spawn of a daemon with this init directory is noted, whether there is a process or not. -/
def Hires (settings : Settings) (directory : Path) (house after : House) : Prop :=
  ∃ badge : Option Badge, (∀ worker ∈ badge, worker.role = .daemon directory ∧
      worker.arguments = Session.daemonArguments settings directory) ∧
    after = house.engage badge (Session.daemonArguments settings directory)
      .nothing .nothing .pipe

/-- What a task may note at once. -/
inductive Entry (settings : Settings) (house : House) : House → Prop
  | grow {tree : Tree} (grows : house.tree.GrowsTo tree) : Entry settings house (house.grow tree)
  | make {directory : Path} {tree : Tree} (vacant : house.directory = none)
      (gains : house.tree.Gains tree directory) : Entry settings house (house.make directory tree)
  | hire {directory : Path} {after : House} (current : house.directory = some directory)
      (hires : Hires settings directory house after) : Entry settings house after
  | call (badge : Option Badge) (own : ∀ client ∈ badge, client.role = .client)
      (arguments : List String) (input : Connection) :
      Entry settings house (house.engage badge arguments input .pipe .pipe)
  | give (pid : Pid) (octets : Option (List UInt8)) : Entry settings house (house.give pid octets)

/-- Entries of one task one after the other. -/
abbrev Entries (settings : Settings) : House → House → Prop :=
  Relation.ReflTransGen (Entry settings)

/-- What an attempt notes that begins: a spawn with the init directory that there is, or with one
that it makes, or nothing where it fails to make one. -/
inductive Begins (house : House) (settings : Settings) (after : House) (fails : Prop) : Prop
  | reuse {directory : Path} (current : house.directory = some directory)
      (hires : Hires settings directory house after)
  | make {directory : Path} {tree : Tree} (vacant : house.directory = none)
      (gains : house.tree.Gains tree directory)
      (hires : Hires settings directory (house.make directory tree) after)
  | fail {tree : Tree} (vacant : house.directory = none) (grows : house.tree.GrowsTo tree)
      (same : after = house.grow tree) (fails : fails)

/-- The init directories that were made, last one first. -/
def makings (house : House) : List Deed :=
  house.deeds.filter Deed.isMaking

/-- What tasks have made of a house: no init directory, or one where there was none, which is new
and stays the init directory. -/
inductive Yields (house after : House) : Prop
  | nothing (grows : house.tree.GrowsTo after.tree) (still : after.directory = house.directory)
      (same : after.makings = house.makings)
  | directory {directory : Path} (vacant : house.directory = none)
      (current : after.directory = some directory) (gains : house.tree.Gains after.tree directory)
      (makes : after.makings = .madeDirectory directory :: house.makings)

/-- The deeds tell the init directory and fit it, it is in the tree, and every daemon was spawned by
one of the deeds. -/
structure IsLawful (settings : Settings) (house : House) : Prop where
  current : Deed.current? house.deeds = house.directory
  holds : ∀ directory ∈ house.directory, house.tree.Holds directory
  legal : Deed.AreLegal settings house.badges house.deeds
  known : ∀ badge ∈ house.badges, ∀ directory, badge.role = .daemon directory →
    badge.arguments = Session.daemonArguments settings directory ∧
      .spawned (some badge.pid) badge.arguments .nothing .nothing .pipe ∈ house.deeds

section Entries

variable {settings : Settings} {house after : House}

theorem hiresIn_engage (house : House) {directory : Path} {badge : Option Badge}
    (own : ∀ worker ∈ badge, worker.role = .daemon directory ∧
      worker.arguments = Session.daemonArguments settings directory) :
    Deed.HiresIn settings (house.badges ++ badge.toList) directory
      (.spawned (badge.map Badge.pid) (Session.daemonArguments settings directory)
        .nothing .nothing .pipe) := by
  refine ⟨_, rfl, fun pid spawned => ?_⟩
  obtain ⟨worker, mine, rfl⟩ := Option.map_eq_some_iff.mp spawned
  have new := List.mem_append_right house.badges (Option.mem_toList.mpr mine)
  exact ⟨worker, new, rfl, (own worker mine).1⟩

theorem Begins.entries {fails : Prop} (begins : house.Begins settings after fails) :
    Entries settings house after := by
  cases begins with
  | reuse current hires => exact .single (.hire current hires)
  | make vacant gains hires => exact .head (.make vacant gains) (.single (.hire rfl hires))
  | fail vacant grows same fails => exact same ▸ .single (.grow grows)

theorem IsLawful.entry (lawful : house.IsLawful settings) (entry : Entry settings house after) :
    after.IsLawful settings := by
  obtain ⟨current, holds, legal, known⟩ := lawful
  have keeps {deed : Deed} (badge : Badge) (member : badge ∈ house.badges) (directory : Path)
      (role : badge.role = .daemon directory) :
      badge.arguments = Session.daemonArguments settings directory ∧
        .spawned (some badge.pid) badge.arguments .nothing .nothing .pipe ∈ deed :: house.deeds :=
    (known badge member directory role).imp_right (List.mem_cons_of_mem _)
  cases entry with
  | grow grows =>
      exact ⟨current, fun directory here => grows.holds (holds directory here), legal, known⟩
  | make vacant gains =>
      refine ⟨rfl, ?_, ⟨current.trans vacant, legal⟩, keeps⟩
      rintro directory ⟨⟩
      exact gains.holds
  | give pid octets => exact ⟨current, holds, ⟨trivial, legal⟩, keeps⟩
  | call badge own arguments input =>
      refine ⟨current, holds, ⟨trivial, legal.more _⟩, fun worker member directory role => ?_⟩
      rcases List.mem_append.mp member with old | new
      · exact keeps worker old directory role
      · cases role.symm.trans (own worker (Option.mem_toList.mp new))
  | @hire directory _ now hires =>
      obtain ⟨badge, own, rfl⟩ := hires
      have fits := hiresIn_engage house own
      refine ⟨current, holds, ⟨⟨directory, current.trans now, fits⟩, legal.more _⟩,
        fun worker member other role => ?_⟩
      rcases List.mem_append.mp member with old | new
      · exact keeps worker old other role
      · have mine := Option.mem_toList.mp new
        obtain ⟨here, arguments⟩ := own worker mine
        cases role.symm.trans here
        refine ⟨arguments, ?_⟩
        rw [arguments, engage, show badge = some worker from mine]
        exact List.mem_cons_self

theorem IsLawful.entries (lawful : house.IsLawful settings)
    (entries : Entries settings house after) : after.IsLawful settings := by
  induction entries with
  | refl => exact lawful
  | tail _ entry inductionHypothesis => exact inductionHypothesis.entry entry

theorem IsLawful.leave {directory : Path} (lawful : house.IsLawful settings)
    (current : house.directory = some directory) (tree : Tree) :
    (house.leave directory tree).IsLawful settings where
  current := rfl
  holds := nofun
  legal := ⟨lawful.current.trans current, lawful.legal⟩
  known badge member other role :=
    (lawful.known badge member other role).imp_right (List.mem_cons_of_mem _)

/-- No task removes an init directory. -/
theorem Entries.removals (entries : Entries settings house after) :
    after.deeds.filter Deed.isRemoval = house.deeds.filter Deed.isRemoval := by
  induction entries with
  | refl => rfl
  | tail _ entry inductionHypothesis =>
      rw [← inductionHypothesis]
      cases entry with
      | hire current hires =>
          obtain ⟨badge, own, rfl⟩ := hires
          rfl
      | _ => rfl

theorem Yields.keep {middle : House} (yields : house.Yields middle)
    (tree : after.tree = middle.tree) (directory : after.directory = middle.directory)
    (makings : after.makings = middle.makings) : house.Yields after := by
  cases yields with
  | nothing grows still same =>
      exact .nothing (tree ▸ grows) (directory.trans still) (makings.trans same)
  | directory vacant current gains makes =>
      exact .directory vacant (directory.trans current) (tree ▸ gains) (makings.trans makes)

theorem Yields.entry {middle : House} (yields : house.Yields middle)
    (entry : Entry settings middle after) : house.Yields after := by
  cases entry with
  | grow more =>
      cases yields with
      | nothing grows still same => exact .nothing (grows.trans more) still same
      | directory vacant current gains makes =>
          exact .directory vacant current (gains.grow more) makes
  | make empty gains =>
      cases yields with
      | nothing grows still same =>
          exact .directory (still.symm.trans empty) rfl (gains.of_grows grows)
            (congrArg (_ :: ·) same)
      | directory vacant current => cases empty.symm.trans current
  | hire now hires =>
      obtain ⟨badge, own, rfl⟩ := hires
      exact yields.keep rfl rfl rfl
  | call badge own arguments input => exact yields.keep rfl rfl rfl
  | give pid octets => exact yields.keep rfl rfl rfl

theorem Entries.yields (entries : Entries settings house after) : house.Yields after := by
  induction entries with
  | refl => exact .nothing (.refl _) rfl rfl
  | tail _ entry inductionHypothesis => exact inductionHypothesis.entry entry

end Entries

end House

end EmacsSession
