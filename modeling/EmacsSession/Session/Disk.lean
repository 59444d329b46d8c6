/-
This file models the directories in which init directories are made and removed.
-/

import EmacsSession.Settings

namespace EmacsSession

/-- A file or a directory at a place below the top. -/
structure Node where
  place : List String
  isDirectory : Bool
  deriving DecidableEq, Repr

/-- The files and directories below the top. -/
structure Tree where
  nodes : List Node
  deriving DecidableEq, Repr

/-- The reasons why the tree refuses a path. -/
inductive Refusal where
  | noEntry
  | taken
  | notDirectory
  | nameTooLong
  deriving DecidableEq, Repr

/-- A refusal as the operating system reports it about a path. -/
def Refusal.report (path : Path) : Refusal → SystemError
  | .noEntry => .about 2 "No such file or directory" path.text
  | .taken => .about 17 "File exists" path.text
  | .notDirectory => .about 20 "Not a directory" path.text
  | .nameTooLong => .about 36 "File name too long" path.text

namespace Tree

/-- The node at a place; the top is a directory. -/
def node? (tree : Tree) : List String → Option Node
  | [] => some ⟨[], true⟩
  | place => tree.nodes.find? fun node => node.place == place

/-- A directory is at the place. -/
def hasDirectory (tree : Tree) (place : List String) : Bool :=
  match tree.node? place with
  | some node => node.isDirectory
  | none => false

/-- A part of a path has at most two hundred and fifty-five octets. -/
def isTooLong (part : String) : Bool :=
  255 < part.utf8ByteSize

/-- The place that the parts of a path lead to from a place. -/
def locate (tree : Tree) (here : List String) : List String → Except Refusal (List String)
  | [] => .ok here
  | part :: rest =>
      if !tree.hasDirectory here then .error .notDirectory
      else if part == ".." then tree.locate here.dropLast rest
      else if isTooLong part then .error .nameTooLong
      else if (tree.node? (here ++ [part])).isNone then .error .noEntry
      else tree.locate (here ++ [part]) rest

/-- The place at the end of a path. -/
def find (tree : Tree) (path : Path) : Except Refusal (List String) :=
  if path.isTooLong then .error .nameTooLong else tree.locate [] path.parts

/-- A directory is at the end of the path. -/
def isDirectory (tree : Tree) (path : Path) : Bool :=
  match tree.find path with
  | .ok place => tree.hasDirectory place
  | .error _ => false

/-- The free place at the end of a path. -/
def freePlace (tree : Tree) (path : Path) : Except Refusal (List String) :=
  match path.parts.getLast? with
  | none => .error .taken
  | some last =>
      if path.isTooLong then .error .nameTooLong
      else do
        let here ← tree.locate [] path.parts.dropLast
        if !tree.hasDirectory here then .error .notDirectory
        else if last == ".." then .error .taken
        else if isTooLong last then .error .nameTooLong
        else if (tree.node? (here ++ [last])).isSome then .error .taken
        else .ok (here ++ [last])

/-- The tree with one more directory. -/
def makeDirectory (tree : Tree) (path : Path) : Except Refusal Tree := do
  let place ← tree.freePlace path
  .ok ⟨tree.nodes ++ [⟨place, true⟩]⟩

/-- The directory at the end of the parts, last part first, is made where there is none, and so are
the directories above it. The directories that were made stay when a later one is refused. -/
def ensureParts (root : PathRoot) : List String → Tree → Except SystemError Unit × Tree
  | [], tree => (.ok (), tree)
  | last :: above, tree =>
      let path : Path := ⟨root, (last :: above).reverse⟩
      let settle (tree : Tree) (refusal : Refusal) : Except SystemError Unit × Tree :=
        (if tree.isDirectory path then .ok () else .error (refusal.report path), tree)
      match tree.makeDirectory path with
      | .ok tree => (.ok (), tree)
      | .error .noEntry =>
          match ensureParts root above tree with
          | (.error error, tree) => (.error error, tree)
          | (.ok (), tree) =>
              match tree.makeDirectory path with
              | .ok tree => (.ok (), tree)
              | .error refusal => settle tree refusal
      | .error refusal => settle tree refusal

/-- The directory of the path is made where there is none, with all directories above it. -/
def ensureDirectory (tree : Tree) (path : Path) : Except SystemError Unit × Tree :=
  ensureParts path.root path.parts.reverse tree

/-- The tree with an empty file at the end of the path. A file that is there stays. -/
def touch (tree : Tree) (path : Path) : Except SystemError Tree :=
  match tree.freePlace path with
  | .ok place => .ok ⟨tree.nodes ++ [⟨place, false⟩]⟩
  | .error .taken => .ok tree
  | .error refusal => .error (refusal.report path)

/-- The tree without a place and what lies below it. -/
def without (tree : Tree) (place : List String) : Tree :=
  ⟨tree.nodes.filter fun node => !place.isPrefixOf node.place⟩

/-- The tree without the file or directory of the path. -/
def remove (tree : Tree) (path : Path) : Except SystemError Tree :=
  match tree.find path with
  | .ok place => .ok (tree.without place)
  | .error refusal => .error (refusal.report path)

/-- The tree without the directory of the path. A file is refused. -/
def removeDirectory (tree : Tree) (path : Path) : Except SystemError Tree :=
  match tree.find path with
  | .ok place =>
      if tree.hasDirectory place then .ok (tree.without place)
      else .error ⟨20, "Not a directory", some ("PosixPath(" ++ Text.quoted path.text ++ ")")⟩
  | .error refusal => .error (refusal.report path)

/-- The paths below a place, in their order as texts. -/
def listing (tree : Tree) (place : List String) : List String :=
  let below := tree.nodes.filter fun node => place.isPrefixOf node.place && node.place != place
  (below.map fun node => "/".intercalate (node.place.drop place.length)).mergeSort

end Tree

/-- The tree with what decides the names and the fate of init directories. -/
structure Disk where
  tree : Tree
  /-- The number in the next name. -/
  counter : Nat := 1
  /-- What the operating system answers to the coming operations on init directories, first one
  first: a refusal, or nothing special. -/
  refusals : List (Option SystemError) := []

namespace Disk

/-- The names that are tried before none is taken for free. -/
def attempts : Nat := 10000

/-- The name of an init directory: a number of at least eight digits behind the channel. -/
def directoryName (number : Nat) : String :=
  let digits := Nat.toDigits 10 number
  channel ++ "-" ++ String.ofList (List.replicate (8 - digits.length) '0' ++ digits)

/-- The first free name under the root becomes a directory. Each name that is tried is used up. -/
def makeFresh (root : Path) : Nat → Disk → Except SystemError Path × Disk
  | 0, disk => (.error ⟨17, "No usable temporary directory name found", none⟩, disk)
  | attempts + 1, disk =>
      let path := root.child (directoryName disk.counter)
      let disk := { disk with counter := disk.counter + 1 }
      match disk.tree.makeDirectory path with
      | .ok tree => (.ok path, { disk with tree := tree })
      | .error .taken => makeFresh root attempts disk
      | .error refusal => (.error (refusal.report path), disk)

/-- The planned answer to the next operation. -/
def answer (disk : Disk) : Option SystemError × Disk :=
  match disk.refusals with
  | [] => (none, disk)
  | refusal :: refusals => (refusal, { disk with refusals := refusals })

/-- A new init directory under the root, which is made too where it is missing. -/
def makeInitDirectory (disk : Disk) (root : Path) : Except Fault Path × Disk :=
  match disk.answer with
  | (some refusal, disk) => (.error (.system refusal), disk)
  | (none, disk) =>
      if root.text.toList.contains '\x00' then (.error .zeroInPath, disk)
      else
        match disk.tree.ensureDirectory root with
        | (.error error, tree) => (.error (.system error), { disk with tree := tree })
        | (.ok (), tree) =>
            let (result, disk) := makeFresh root attempts { disk with tree := tree }
            (result.mapError .system, disk)

/-- An init directory is removed with all that it holds. -/
def discardDirectory (disk : Disk) (path : Path) : Except Fault Unit × Disk :=
  match disk.answer with
  | (some refusal, disk) => (.error (.system refusal), disk)
  | (none, disk) =>
      match disk.tree.removeDirectory path with
      | .ok tree => (.ok (), { disk with tree := tree })
      | .error error => (.error (.system error), disk)

end Disk

end EmacsSession
