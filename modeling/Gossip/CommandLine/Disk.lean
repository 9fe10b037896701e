import Gossip.CommandLine.Path
import Gossip.Report.Failure

/-! The file system as the command line sees it.

`Disk` is what the command line may ask of a file system. `FileTree` is a file system in memory:
most of its files and directories are under the working directory. The working directory, what it
lies in, and the root are always there; of what else is in them a tree knows only what was put into
it. -/
namespace Gossip

/-- An entry of a directory, as it is listed. -/
structure DirectoryEntry where
  name : Path
  isFile : Bool
  /-- What the file system says its size is. -/
  size : Except FileFault Nat
  deriving Repr

structure Disk (m : Type → Type) where
  isDirectory : Path → m Bool
  /-- The entries of a directory. The listing may break off at any of them. -/
  entries : Path → m (Except FileFault (List (Except FileFault DirectoryEntry)))
  read : Path → m (Except FileFault Bytes)
  write : Path → Bytes → m (Except FileFault Unit)

/-- A directory that is always there. -/
inductive FileTree.Anchor where
  | root
  /-- The working directory, or so many levels above it. -/
  | above (levels : Nat)
  deriving DecidableEq, Repr

/-- Where something is: the names that lead to it from a directory that is always there. -/
structure FileTree.Place where
  anchor : FileTree.Anchor
  names : List Path
  deriving DecidableEq, Repr

/-- What is at a place: a file, or a directory with what is in it. -/
inductive FileTree.Node where
  | file (bytes : Bytes)
  | directory (entries : List (Path × FileTree.Node))
  deriving Repr

/-- What was put into the directories that are always there; of two for one the first counts. -/
structure FileTree where
  roots : List (FileTree.Anchor × FileTree.Node)
  deriving Repr

namespace FileTree

namespace Place

/-- The place of something in the working directory, or below it. -/
def ofNames (names : List Path) : Place := ⟨.above 0, names⟩

/-- The place of something in the directory at a place. -/
def child (place : Place) (name : Path) : Place := { place with names := place.names ++ [name] }

/-- The place of the directory that holds a place. -/
def parent : Place → Place
  | ⟨.root, names⟩ => ⟨.root, names.dropLast⟩
  | ⟨.above levels, []⟩ => ⟨.above (levels + 1), []⟩
  | ⟨.above levels, names⟩ => ⟨.above levels, names.dropLast⟩

end Place

/-! ### Nodes -/

namespace Node

/-- What is in a directory; there is nothing in a file. -/
def entries : Node → List (Path × Node)
  | .file _ => []
  | .directory entries => entries

def isFile : Node → Bool
  | .file _ => true
  | .directory _ => false

/-- How many bytes are in a file. -/
def size : Node → Nat
  | .file bytes => bytes.length
  | .directory _ => 0

/-- The node that names lead to. -/
def at? : Node → List Path → Option Node
  | node, [] => some node
  | node, name :: rest => (node.entries.lookup name).bind fun below => below.at? rest

/-- Puts a node under a name, instead of the one that may be there. -/
def setEntry (name : Path) (node : Node) : List (Path × Node) → List (Path × Node)
  | [] => [(name, node)]
  | entry :: rest =>
    if entry.1 = name then (name, node) :: rest else entry :: setEntry name node rest

/-- Changes what names lead to, and makes the directories on the way. -/
def change (become : Node → Node) : Node → List Path → Node
  | node, [] => become node
  | node, name :: rest =>
    let below := (node.entries.lookup name).getD (.directory [])
    .directory (setEntry name (change become below rest) node.entries)

end Node

def empty : FileTree := ⟨[]⟩

/-- A directory that is always there. -/
def root (tree : FileTree) (anchor : Anchor) : Node :=
  .directory ((tree.roots.lookup anchor).elim [] Node.entries)

/-- The node at a place. -/
def node? (tree : FileTree) (place : Place) : Option Node :=
  (tree.root place.anchor).at? place.names

/-- Changes what is at a place, and makes the directories on the way. -/
def change (tree : FileTree) (place : Place) (become : Node → Node) : FileTree :=
  ⟨(place.anchor, (tree.root place.anchor).change become place.names) ::
    tree.roots.filter fun entry => entry.1 ≠ place.anchor⟩

/-! ### Paths -/

/-- No name takes more bytes than this. -/
def maxNameLength : Nat := 255

/-- No path takes more bytes than this. -/
def maxPathLength : Nat := 4095

/-- Splits a path at every slash, from the piece on of which the end is given in reverse. -/
def splitSlashes (piece : Bytes) : Bytes → List Path
  | [] => [⟨piece.reverse⟩]
  | byte :: rest =>
    if byte = Path.slash then ⟨piece.reverse⟩ :: splitSlashes [] rest
    else splitSlashes (byte :: piece) rest

/-- The pieces of a path between its slashes. -/
def pieces (path : Path) : List Path := splitSlashes [] path.bytes

/-- The piece of nothing, at the ends of a path and between two slashes. -/
def nothing : Path := ⟨[]⟩

/-- The piece that stays in a directory. -/
def here : Path := ⟨[0x2E]⟩

/-- The piece that leads out of a directory. -/
def above : Path := ⟨[0x2E, 0x2E]⟩

/-- Follows the pieces of a path from a place. Nothing need be where they lead, but every piece has
to start at a directory. -/
def follow (tree : FileTree) (place : Place) : List Path → Except FileFault Place
  | [] => .ok place
  | piece :: rest =>
    match tree.node? place with
    | none => .error .notFound
    | some (.file _) => .error .notDirectory
    | some (.directory _) =>
      if piece = nothing ∨ piece = here then follow tree place rest
      else if piece = above then follow tree place.parent rest
      else if maxNameLength < piece.bytes.length then .error .nameTooLong
      else follow tree (place.child piece) rest

/-- Where a path starts, and the pieces to follow from there. -/
def start (path : Path) : Except FileFault (Place × List Path) :=
  if maxPathLength < path.bytes.length then .error .nameTooLong
  else match pieces path with
    | [⟨[]⟩] => .error .notFound
    | ⟨[]⟩ :: rest => .ok (⟨.root, []⟩, rest)
    | pieces => .ok (.ofNames [], pieces)

/-- The place that a path leads to; nothing need be there. -/
def resolve (tree : FileTree) (path : Path) : Except FileFault Place := do
  let (place, pieces) ← start path
  tree.follow place pieces

/-- The node that a path leads to. -/
def find (tree : FileTree) (path : Path) : Except FileFault Node := do
  match tree.node? (← tree.resolve path) with
  | none => throw .notFound
  | some node => return node

/-! ### The tree as a file system -/

def isDirectory (tree : FileTree) (path : Path) : Bool :=
  match tree.find path with
  | .ok node => !node.isFile
  | .error _ => false

/-- The entries of a directory. One whose path is too long to be looked at is not known for a
file. -/
def entries (tree : FileTree) (path : Path) :
    Except FileFault (List (Except FileFault DirectoryEntry)) := do
  match ← tree.find path with
  | .file _ => throw .notDirectory
  | .directory entries =>
    return entries.map fun (name, node) =>
      let isFile := node.isFile && (path.entry name).bytes.length ≤ maxPathLength
      .ok ⟨name, isFile, .ok node.size⟩

/-- The bytes of a file. -/
def contents (tree : FileTree) (path : Path) : Except FileFault Bytes := do
  match ← tree.find path with
  | .directory _ => throw .isDirectory
  | .file bytes => return bytes

/-- The pieces before the last name of a path that has a slash after it. -/
def beforeSlashed? (pieces : List Path) : Option (List Path) :=
  match pieces.reverse with
  | ⟨[]⟩ :: rest =>
    match rest.dropWhile (· = nothing) with
    | last :: way => if last = here ∨ last = above then none else some way.reverse
    | [] => none
  | _ => none

/-- Writes a file, which need not be there yet; its directory must be. A name with a slash after it
is taken for that of a directory, whatever is there. -/
def write (tree : FileTree) (path : Path) (bytes : Bytes) : Except FileFault FileTree := do
  let (place, pieces) ← start path
  match beforeSlashed? pieces with
  | some way => do
    let _ ← tree.follow place (way ++ [here])
    throw .isDirectory
  | none => do
    let place ← tree.follow place pieces
    match tree.node? place with
    | some (.directory _) => throw .isDirectory
    | _ => return tree.change place fun _ => .file bytes

/-- The place that a path in the working directory names, if nothing leads out of it. -/
def placeIn (path : Path) : Place :=
  .ofNames ((pieces path).filter fun piece => piece ≠ nothing ∧ piece ≠ here)

/-- Puts a file into the working directory, and makes the directories on the way. -/
def installFile (tree : FileTree) (path : Path) (bytes : Bytes) : FileTree :=
  tree.change (placeIn path) fun _ => .file bytes

/-- Makes a directory in the working directory, and those on the way. -/
def installDirectory (tree : FileTree) (path : Path) : FileTree :=
  tree.change (placeIn path) fun node => .directory node.entries

/-- The bytes of the file that a text leads to. -/
def read (tree : FileTree) (text : String) : Except FileFault Bytes := tree.contents text

/-- A file tree whose changes are kept. -/
def disk : Disk (StateM FileTree) where
  isDirectory path := do return (← get).isDirectory path
  entries path := do return (← get).entries path
  read path := do return (← get).contents path
  write path bytes := do
    match (← get).write path bytes with
    | .ok tree => do
      set tree
      return .ok ()
    | .error fault => return .error fault

end FileTree
end Gossip
