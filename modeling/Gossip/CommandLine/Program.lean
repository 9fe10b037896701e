import Gossip.CommandLine.Disk
import Gossip.CommandLine.Request
import Gossip.Report.Composition
import Gossip.Report.Inspection
import Gossip.Report.ItemSpec
import Gossip.Report.Transcript

/-! What the command line does.

An action gives what it prints, log records among the text where they are made, and the failure that
ended it, if one did. The inspection of a directory inspects its files one by one in ascending order
of their paths; what it prints for a file is `fileBlock`, and depends on nothing but the path, the
size that was listed, the bytes and the network. -/
namespace Gossip

/-- A piece of output. -/
inductive Output where
  /-- A line, without its end. -/
  | line (content : String)
  /-- Lines with their ends. -/
  | lines (content : String)
  | record (entry : Log.Record)
  deriving DecidableEq, Repr

namespace Output

/-- The text of a piece of output, for the records up to a level. -/
def render (threshold : Log.Level) (time : String) : Output → String
  | .line content => content ++ "\n"
  | .lines content => content
  | .record entry => if entry.isShownAt threshold then entry.line time ++ "\n" else ""

end Output

structure Outcome where
  output : List Output
  failure : Option Failure
  deriving DecidableEq, Repr

namespace Outcome

def exitCode (outcome : Outcome) : Nat := if outcome.failure.isNone then 0 else 1

/-- What is printed for the failure. -/
def complaint (outcome : Outcome) : String :=
  match outcome.failure with
  | none => ""
  | some failure => "Error: " ++ failure.text ++ "\n"

/-- An outcome that comes after some output. -/
def after (outcome : Outcome) (output : List Output) : Outcome :=
  { outcome with output := output ++ outcome.output }

def failed (failure : Failure) : Outcome := ⟨[], some failure⟩

/-- The outcome of a job: its records, and after them its output or its failure. -/
def ofJob {α : Type} (job : Job α) (present : α → List Output) : Outcome :=
  match job [] with
  | .ok value log => ⟨log.map .record ++ present value, none⟩
  | .error failure log => ⟨log.map .record, some failure⟩

end Outcome

/-- The level that a verbosity stands for. -/
def Log.Level.ofVerbosity : Nat → Log.Level
  | 0 => .warn
  | 1 => .info
  | 2 => .debug
  | _ => .trace

/-- What the files of a directory are selected by: their paths, and their names if these are
texts. -/
structure Matcher where
  path : Path → Bool
  name : String → Bool

namespace Matcher

/-- Is a file of a directory selected? Without a matcher, all are. -/
def selects (matcher : Option Matcher) (directory name : Path) : Bool :=
  match matcher with
  | none => true
  | some matcher => matcher.path (directory.entry name) || name.text?.elim false matcher.name

end Matcher

/-- A glob does not match a path that is no text. -/
def Glob.matcher (glob : Glob) : Matcher where
  path path := path.text?.elim false glob.isMatch
  name := glob.isMatch

namespace CommandLine

def readPattern (pattern : Option String) : Except Failure (Option Glob) :=
  match pattern with
  | none => .ok none
  | some pattern =>
    match Glob.parse pattern with
    | .ok glob => .ok (some glob)
    | .error error => .error (.during "invalid glob pattern" (.pattern error))

/-- A file to inspect, with the size that was listed. -/
structure MessageEntry where
  path : Path
  size : Nat
  deriving DecidableEq, Repr

/-- The files that are selected, in the order in which they are listed. No size is asked for but
theirs. -/
def collectFiles (matcher : Option Matcher) (directory : Path) :
    List (Except FileFault DirectoryEntry) → Except FileFault (List MessageEntry)
  | [] => .ok []
  | .error fault :: _ => .error fault
  | .ok entry :: rest =>
    if entry.isFile && Matcher.selects matcher directory entry.name then do
      let size ← entry.size
      return ⟨directory.entry entry.name, size⟩ :: (← collectFiles matcher directory rest)
    else collectFiles matcher directory rest

/-- The files in ascending order of their paths. -/
def sortFiles (files : List MessageEntry) : List MessageEntry :=
  files.mergeSort fun a b => decide (a.path.bytes ≤ b.path.bytes)

/-- What is printed for one file of a directory. -/
def fileBlock (network : Network) (file : MessageEntry) (bytes : Bytes) : List Output :=
  let report :=
    match Inspection.ofBytes bytes network .standard .current [] with
    | .ok report log => log.map .record ++ report.lines.map .line
    | .error failure log => log.map .record ++ [.line ("error: " ++ failure.line)]
  .line s!"== {file.path.shown} ({file.size} bytes) ==" :: report

section Actions
variable {m : Type → Type} [Monad m] (disk : Disk m)

/-- Inspects files one by one, up to the first that cannot be read. -/
def inspectFiles (network : Network) : List MessageEntry → m Outcome
  | [] => return ⟨[], none⟩
  | file :: rest => do
    match ← disk.read file.path with
    | .error fault => return .failed (.during s!"read message {file.path.shown}" (.file fault))
    | .ok bytes => return (← inspectFiles network rest).after (fileBlock network file bytes)

/-- Inspects the files of a directory that are selected. -/
def inspectSelected (matcher : Option Matcher) (path : Path) (network : Network) : m Outcome := do
  match ← disk.entries path with
  | .error fault => return .failed (.during s!"read dir {path.shown}" (.file fault))
  | .ok listed =>
    match collectFiles matcher path listed with
    | .error fault => return .failed (.ofCause (.file fault))
    | .ok files => inspectFiles disk network (sortFiles files)

def inspectDirectory (path : Path) (pattern : Option String) (network : Network) : m Outcome :=
  match readPattern pattern with
  | .error failure => return .failed failure
  | .ok glob => inspectSelected disk (glob.map Glob.matcher) path network

/-- Does a job on the bytes of a file. -/
def withFile {α : Type} (path : Path) (job : Bytes → Job α) (present : α → List Output) :
    m Outcome := do
  match ← disk.read path with
  | .error fault => return .failed (.during s!"read message {path.shown}" (.file fault))
  | .ok bytes => return .ofJob (job bytes) present

def inspect (path : Path) (pattern : Option String) (network : Network) : m Outcome := do
  if ← disk.isDirectory path then inspectDirectory disk path pattern network
  else
    withFile disk path (Inspection.ofBytes · network .standard .current)
      fun report => report.lines.map .line

def decode (path : Path) (network : Network) (format : Format) : m Outcome :=
  withFile disk path (Transcript.ofBytes · network .standard .current) fun report =>
    match format with
    | .json => [.line report.toJson.indented]
    | .pretty => [.lines report.text]

def encode (command : String) (specs : List String) (network : Network) (path : Path) :
    m Outcome := do
  match specs.mapM ItemSpec.parse with
  | .error failure => return .failed failure
  | .ok items =>
    match compose command items.toArray network .current [] with
    | .error failure log => return ⟨log.map .record, some failure⟩
    | .ok bytes log =>
      let records := log.map Output.record
      match ← disk.write path bytes with
      | .error fault => return ⟨records, some (.during s!"write {path.shown}" (.file fault))⟩
      | .ok () => return ⟨records ++ [.line s!"wrote {bytes.length} bytes to {path.shown}"], none⟩

def run (action : Action) : m Outcome :=
  match action with
  | .inspect path pattern network => inspect disk path pattern network
  | .decode path network format => decode disk path network format
  | .encode command items network path => encode disk command items network path

end Actions

end CommandLine
end Gossip
