/-
This file shows that an init directory that is made is new and is in the tree from then on, and that
one that is removed is lost with all that it holds.
-/

import EmacsSession.Session.Disk
import Mathlib.Data.List.Basic

namespace EmacsSession

namespace Tree

/-- Nothing of a tree is lost. -/
def GrowsTo (tree after : Tree) : Prop :=
  tree.nodes <+: after.nodes

/-- The path leads to a directory that is in the tree. -/
def Holds (tree : Tree) (path : Path) : Prop :=
  ∃ place, tree.find path = .ok place ∧ ⟨place, true⟩ ∈ tree.nodes

/-- The path led to nothing before, and leads to a directory that has come into the tree. -/
structure Gains (tree after : Tree) (path : Path) : Prop where
  grows : tree.GrowsTo after
  new : ∀ place, tree.find path ≠ .ok place
  made : ∃ place, after.find path = .ok place ∧ ⟨place, true⟩ ∈ after.nodes ∧
    ∀ node ∈ tree.nodes, node.place ≠ place

/-- What the path led to is lost with all below it, and nothing else is. -/
def Loses (tree after : Tree) (path : Path) : Prop :=
  ∃ place, tree.find path = .ok place ∧
    ∀ node, node ∈ after.nodes ↔ node ∈ tree.nodes ∧ ¬ place <+: node.place

/-- The parts above the last one lead to a directory, in which nothing has the name of the last
one. -/
structure IsFree (tree : Tree) (path : Path) (here : List String) (last : String) : Prop where
  parts : path.parts = path.parts.dropLast ++ [last]
  short : path.isTooLong = false
  above : tree.locate [] path.parts.dropLast = .ok here
  directory : tree.hasDirectory here = true
  forward : (last == "..") = false
  shortLast : isTooLong last = false
  vacant : tree.node? (here ++ [last]) = none

section Growth

variable {tree after : Tree} {here place : List String} {path : Path}

theorem GrowsTo.refl (tree : Tree) : tree.GrowsTo tree :=
  List.prefix_refl _

theorem GrowsTo.trans {later : Tree} (first : tree.GrowsTo after) (second : after.GrowsTo later) :
    tree.GrowsTo later :=
  List.IsPrefix.trans first second

theorem node?_concat (tree : Tree) (here : List String) (part : String) :
    tree.node? (here ++ [part]) = tree.nodes.find? fun node => node.place == here ++ [part] := by
  cases here <;> rfl

theorem GrowsTo.node? (grows : tree.GrowsTo after) {node : Node}
    (found : tree.node? place = some node) : after.node? place = some node := by
  obtain ⟨more, same⟩ := grows
  cases place with
  | nil => exact found
  | cons part rest =>
      change after.nodes.find? _ = some node
      rw [← same, List.find?_append]
      change tree.nodes.find? _ = some node at found
      rw [found]
      rfl

theorem GrowsTo.hasDirectory (grows : tree.GrowsTo after)
    (here : tree.hasDirectory place = true) : after.hasDirectory place = true := by
  rw [Tree.hasDirectory] at here ⊢
  split at here
  next node found => rw [grows.node? found]; exact here
  next => cases here

/-- What the parts of a path lead to stays where it is. -/
theorem GrowsTo.locate (grows : tree.GrowsTo after) {parts : List String}
    (found : tree.locate here parts = .ok place) : after.locate here parts = .ok place := by
  induction parts generalizing here with
  | nil => exact found
  | cons part parts inductionHypothesis =>
      rw [Tree.locate] at found ⊢
      split at found
      next => cases found
      next inside =>
        have stays : after.hasDirectory here = true := grows.hasDirectory (by simpa using inside)
        rw [stays]
        split at found
        next up => simpa [up] using inductionHypothesis found
        next notUp =>
          split at found
          next => cases found
          next short =>
            split at found
            next => cases found
            next present =>
              obtain ⟨node, there⟩ : ∃ node, tree.node? (here ++ [part]) = some node := by
                simpa [Option.ne_none_iff_exists'] using present
              simpa [notUp, short, grows.node? there] using inductionHypothesis found

theorem GrowsTo.find (grows : tree.GrowsTo after) (found : tree.find path = .ok place) :
    after.find path = .ok place := by
  rw [Tree.find] at found ⊢
  split at found
  next => cases found
  next short =>
    rw [if_neg short]
    exact grows.locate found

theorem GrowsTo.holds (grows : tree.GrowsTo after) (holds : tree.Holds path) :
    after.Holds path := by
  obtain ⟨place, found, member⟩ := holds
  exact ⟨place, grows.find found, grows.subset member⟩

/-- The parts of a path are followed one after the other. -/
theorem locate_append (tree : Tree) (here first second : List String) :
    tree.locate here (first ++ second) =
      (tree.locate here first).bind fun place => tree.locate place second := by
  induction first generalizing here with
  | nil => rfl
  | cons part first inductionHypothesis =>
      rw [List.cons_append, Tree.locate, Tree.locate, inductionHypothesis, inductionHypothesis]
      split_ifs <;> rfl

theorem Gains.holds (gains : tree.Gains after path) : after.Holds path := by
  obtain ⟨place, found, member, -⟩ := gains.made
  exact ⟨place, found, member⟩

/-- What is gained later was new before. -/
theorem Gains.of_grows {middle : Tree} (grows : tree.GrowsTo middle)
    (gains : middle.Gains after path) : tree.Gains after path where
  grows := grows.trans gains.grows
  new place found := gains.new place (grows.find found)
  made := by
    obtain ⟨place, found, member, apart⟩ := gains.made
    exact ⟨place, found, member, fun node old => apart node (grows.subset old)⟩

/-- What is gained stays. -/
theorem Gains.grow {middle : Tree} (gains : tree.Gains middle path)
    (grows : middle.GrowsTo after) : tree.Gains after path where
  grows := gains.grows.trans grows
  new := gains.new
  made := by
    obtain ⟨place, found, member, apart⟩ := gains.made
    exact ⟨place, grows.find found, grows.subset member, apart⟩

end Growth

section Making

variable {tree after : Tree} {here place : List String} {path : Path} {last : String}

theorem isFree_of_freePlace (free : tree.freePlace path = .ok place) :
    ∃ here last, tree.IsFree path here last ∧ place = here ++ [last] := by
  rw [freePlace] at free
  split at free
  next => cases free
  next last ends =>
    have parts : path.parts = path.parts.dropLast ++ [last] :=
      (List.dropLast_append_getLast? last ends).symm
    split at free
    next => cases free
    next short =>
      cases above : tree.locate [] path.parts.dropLast with
      | error refusal =>
          rw [above] at free
          cases free
      | ok here =>
          rw [above] at free
          simp only [bind, Except.bind] at free
          split_ifs at free with outside upwards long taken
          cases free
          exact ⟨here, last, ⟨parts, by simpa using short, above, by simpa using outside,
            by simpa using upwards, by simpa using long, by simpa using taken⟩, rfl⟩

/-- A path leads to nothing as long as its place is free. -/
theorem IsFree.find_ne (free : tree.IsFree path here last) (place : List String) :
    tree.find path ≠ .ok place := by
  have ends : tree.locate here [last] = .error .noEntry := by
    simp [Tree.locate, free.directory, free.forward, free.shortLast, free.vacant]
  rw [Tree.find, free.short, free.parts, locate_append, free.above]
  simp [Except.bind, ends]

/-- A path leads to its place as soon as that is taken. -/
theorem IsFree.find_eq (free : tree.IsFree path here last) (grows : tree.GrowsTo after)
    {node : Node} (taken : after.node? (here ++ [last]) = some node) :
    after.find path = .ok (here ++ [last]) := by
  have ends : after.locate here [last] = .ok (here ++ [last]) := by
    simp [Tree.locate, grows.hasDirectory free.directory, free.forward, free.shortLast, taken]
  rw [Tree.find, free.short, free.parts, locate_append, grows.locate free.above]
  simpa [Except.bind] using ends

theorem gains_of_makeDirectory (made : tree.makeDirectory path = .ok after) :
    tree.Gains after path := by
  rw [makeDirectory] at made
  cases found : tree.freePlace path with
  | error refusal =>
      rw [found] at made
      cases made
  | ok place =>
      rw [found] at made
      cases made
      obtain ⟨here, last, free, rfl⟩ := isFree_of_freePlace found
      let grown : Tree := ⟨tree.nodes ++ [⟨here ++ [last], true⟩]⟩
      have grows : tree.GrowsTo grown := List.prefix_append _ _
      have vacant := free.vacant
      rw [node?_concat] at vacant
      have taken : grown.node? (here ++ [last]) = some ⟨here ++ [last], true⟩ := by
        rw [node?_concat, List.find?_append, vacant]
        simp
      refine ⟨grows, free.find_ne, _, free.find_eq grows taken, by simp, fun node member => ?_⟩
      simpa using List.find?_eq_none.mp vacant node member

/-- The directories that were made on the way to a missing one stay, whatever is refused. -/
theorem grows_ensureParts (root : PathRoot) (parts : List String) (tree : Tree) :
    tree.GrowsTo (ensureParts root parts tree).2 := by
  induction parts generalizing tree with
  | nil => exact .refl tree
  | cons last above inductionHypothesis =>
      rw [ensureParts]
      dsimp only
      split
      next made => exact (gains_of_makeDirectory made).grows
      next =>
        have grows := inductionHypothesis tree
        split
        next ensured => rwa [ensured] at grows
        next ensured =>
          rw [ensured] at grows
          split
          next made => exact grows.trans (gains_of_makeDirectory made).grows
          next => exact grows
      next => exact .refl tree

/-- What is lost by a removal is what stands below the place of the path. -/
theorem loses_of_removeDirectory (removes : tree.removeDirectory path = .ok after) :
    tree.Loses after path := by
  rw [removeDirectory] at removes
  split at removes
  next place found =>
    split at removes
    next =>
      cases removes
      refine ⟨place, found, fun node => ?_⟩
      rw [without, List.mem_filter, Bool.not_eq_true', ← List.isPrefixOf_iff_prefix,
        Bool.not_eq_true]
    next => cases removes
  next => cases removes

end Making

end Tree

namespace Disk

variable {disk after : Disk} {root path : Path}

theorem tree_of_answer {planned : Option SystemError} (answers : disk.answer = (planned, after)) :
    after.tree = disk.tree := by
  rw [answer] at answers
  split at answers <;> cases answers <;> rfl

/-- A fresh directory is new, whatever names were tried before its own. Where there is none the tree
stays as it is. -/
theorem makeFresh_cases (root : Path) (attempts : Nat) (disk : Disk) :
    (∃ path after, makeFresh root attempts disk = (.ok path, after) ∧
        disk.tree.Gains after.tree path) ∨
      ∃ error after, makeFresh root attempts disk = (.error error, after) ∧
        after.tree = disk.tree := by
  induction attempts generalizing disk with
  | zero => exact .inr ⟨_, _, rfl, rfl⟩
  | succ attempts inductionHypothesis =>
      rw [makeFresh]
      dsimp only
      split
      next makes => exact .inl ⟨_, _, rfl, Tree.gains_of_makeDirectory makes⟩
      next =>
        -- A name that is taken costs a number only.
        exact inductionHypothesis { disk with counter := disk.counter + 1 }
      next => exact .inr ⟨_, _, rfl, rfl⟩

/-- An init directory that is made is new. Where none is made, directories above it may have been
made, but nothing is lost. -/
theorem makeInitDirectory_cases (disk : Disk) (root : Path) :
    (∃ path after, disk.makeInitDirectory root = (.ok path, after) ∧
        disk.tree.Gains after.tree path) ∨
      ∃ fault after, disk.makeInitDirectory root = (.error fault, after) ∧
        disk.tree.GrowsTo after.tree := by
  rw [makeInitDirectory]
  split
  next answers => exact .inr ⟨_, _, rfl, tree_of_answer answers ▸ .refl _⟩
  next later answers =>
    rw [← tree_of_answer answers]
    split
    next => exact .inr ⟨_, _, rfl, .refl _⟩
    next =>
      have grows := Tree.grows_ensureParts root.root root.parts.reverse later.tree
      split
      next ensured =>
        rw [Tree.ensureDirectory] at ensured
        rw [ensured] at grows
        exact .inr ⟨_, _, rfl, grows⟩
      next tree ensured =>
        rw [Tree.ensureDirectory] at ensured
        rw [ensured] at grows
        rcases makeFresh_cases root attempts { later with tree := tree } with
          ⟨path, last, fresh, gains⟩ | ⟨error, last, fresh, same⟩
        · -- What is new once the directories above it are there was new before.
          rw [fresh]
          exact .inl ⟨_, _, rfl, gains.of_grows grows⟩
        · rw [fresh]
          exact .inr ⟨_, _, rfl, same ▸ grows⟩

theorem gains_of_makeInitDirectory (made : disk.makeInitDirectory root = (.ok path, after)) :
    disk.tree.Gains after.tree path := by
  rcases makeInitDirectory_cases disk root with ⟨_, _, same, gains⟩ | ⟨_, _, same, -⟩
  · cases made.symm.trans same
    exact gains
  · cases made.symm.trans same

theorem grows_of_makeInitDirectory {fault : Fault}
    (refused : disk.makeInitDirectory root = (.error fault, after)) :
    disk.tree.GrowsTo after.tree := by
  rcases makeInitDirectory_cases disk root with ⟨_, _, same, -⟩ | ⟨_, _, same, grows⟩
  · cases refused.symm.trans same
  · cases refused.symm.trans same
    exact grows

theorem tree_of_discardDirectory {fault : Fault}
    (refused : disk.discardDirectory path = (.error fault, after)) : after.tree = disk.tree := by
  rw [discardDirectory] at refused
  split at refused
  next answers =>
    cases refused
    exact tree_of_answer answers
  next answers =>
    split at refused
    next => cases refused
    next =>
      cases refused
      exact tree_of_answer answers

theorem loses_of_discardDirectory (removes : disk.discardDirectory path = (.ok (), after)) :
    disk.tree.Loses after.tree path := by
  rw [discardDirectory] at removes
  split at removes
  next => cases removes
  next later answers =>
    rw [← tree_of_answer answers]
    split at removes
    next removed =>
      cases removes
      exact Tree.loses_of_removeDirectory removed
    next => cases removes

end Disk

end EmacsSession
