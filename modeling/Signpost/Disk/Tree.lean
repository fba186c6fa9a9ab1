import Signpost.Disk.Basic

/-!
# A file system in memory

A tree holds what stands under each absolute list of names; the root is always a
directory. A path is followed step by step from the root or from a working directory,
as a file system does it: every step but the last must lead to a directory that
exists and can be opened, so `missing/../f` is not found even though `f` is there, and a
file followed by a slash is an error.
-/

namespace Signpost

/-- A file system in memory: what stands under each absolute list of names. -/
structure Tree where
  /-- What stands under each list of names. -/
  entries : List (List Bytes × Node)
deriving Repr

namespace Tree

/-- The tree that holds nothing. -/
def empty : Tree := ⟨[]⟩

/-- What stands under a list of names. -/
def get? (tree : Tree) (names : List Bytes) : Option Node :=
  if names.isEmpty then some .directory else tree.entries.lookup names

/-- Removes a list of names and everything below it. -/
def erase (tree : Tree) (names : List Bytes) : Tree :=
  ⟨tree.entries.filter fun (there, _) => !names.isPrefixOf there⟩

/-- Puts something under a list of names, with the directories above it. -/
def insert (tree : Tree) (names : List Bytes) (node : Node) : Tree :=
  let above := (List.range names.length).map fun n => names.take n
  let missing := above.filter fun dir => (tree.get? dir).isNone
  ⟨(names, node) :: tree.entries.filter (fun (there, _) => there != names) ++
    missing.map fun dir => (dir, .directory)⟩

/-- The names of an absolute path without detours. -/
def namesOf (p : Path) : List Bytes :=
  p.pieces.filter (!·.isEmpty)

/-- The longest name that a directory can hold. -/
def longestName : Nat := 255

/-- The length from which on a path is too long as a whole. -/
def pathLimit : Nat := 4096

/-- Follows the pieces of a path from a list of names. -/
def walk (tree : Tree) (names : List Bytes) : List Bytes → Except DiskError (List Bytes)
  | [] => .ok names
  | piece :: rest =>
    match tree.get? names with
    | none => .error .notFound
    | some (.file _) => .error .notADirectory
    | some (.sealed true _) => .error .notADirectory
    | some (.sealed false reason) => .error reason
    | some .directory =>
      if Path.isIdle piece then tree.walk names rest
      else if piece = [Path.dot, Path.dot] then tree.walk names.dropLast rest
      else if longestName < piece.length then .error .nameTooLong
      else if (tree.get? (names ++ [piece])).isNone then .error .notFound
      else tree.walk (names ++ [piece]) rest

/-- The names that a path leads to, with relative paths read from a working directory. -/
def locate (tree : Tree) (cwd : List Bytes) (p : Path) : Except DiskError (List Bytes) :=
  if p.bytes.contains 0 then .error .nulByte
  else if p.bytes.isEmpty then .error .notFound
  else if pathLimit ≤ p.bytes.length then .error .nameTooLong
  else tree.walk (if p.isAbsolute then [] else cwd) p.pieces

/-- The tree as a disk, with relative paths read from a working directory. -/
def disk (tree : Tree) (cwd : List Bytes) : Disk := fun p =>
  match tree.locate cwd p with
  | .error e => .error e
  | .ok names =>
    match tree.get? names with
    | some node => .ok node
    | none => .error .notFound

/-- Removes the file that a path leads to. Directories stay. -/
def remove (tree : Tree) (cwd : List Bytes) (p : Path) : Tree :=
  match tree.locate cwd p with
  | .error _ => tree
  | .ok names =>
    match tree.get? names with
    | some (.file _) => tree.erase names
    | some (.sealed true _) => tree.erase names
    | _ => tree

/-- Puts something where the pieces of a path lead from a list of names, and makes the
directories on the way. -/
def place (tree : Tree) (node : Node) (names : List Bytes) : List Bytes → Tree
  | [] => tree.insert names node
  | piece :: rest =>
    if Path.isIdle piece then tree.place node names rest
    else if piece = [Path.dot, Path.dot] then tree.place node names.dropLast rest
    else
      let names := names ++ [piece]
      let tree := if (tree.get? names).isSome then tree else tree.insert names .directory
      tree.place node names rest

/-- Puts something under a path, with the directories above it. -/
def write (tree : Tree) (cwd : List Bytes) (p : Path) (node : Node) : Tree :=
  tree.place node (if p.isAbsolute then [] else cwd) p.pieces

end Tree

end Signpost
