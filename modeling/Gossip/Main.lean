import Gossip.CommandLine.Help
import Gossip.CommandLine.Program

/-! The program: the actions of the command line on the file system of the machine. -/
namespace Gossip.CommandLine

/-- What the machine says about a file, in the words of `FileFault`. -/
def fileFault (error : IO.Error) : FileFault :=
  match error with
  | .noFileOrDirectory .. => .notFound
  | .inappropriateType _ code _ =>
    if code = 20 then .notDirectory else if code = 21 then .isDirectory else .other (toString error)
  | .invalidArgument _ code _ => if code = 36 then .nameTooLong else .other (toString error)
  | _ => .other (toString error)

/-- The value of an action of the machine, or what it says about the file. -/
def guarded {α : Type} (action : IO α) : IO (Except FileFault α) := do
  match ← action.toBaseIO with
  | .ok value => return .ok value
  | .error error => return .error (fileFault error)

/-- A path in the form in which the machine takes it. Those that are no texts are out of its
reach. -/
def withText {α : Type} (path : Path) (action : String → IO (Except FileFault α)) :
    IO (Except FileFault α) :=
  match path.text? with
  | some text => action text
  | none => return .error (.other "the path is not valid UTF-8")

/-- The file system of the machine. -/
def machine : Disk IO where
  isDirectory path := (System.mkFilePath [path.shown]).isDir
  entries path := withText path fun text => guarded do
    let entries ← (System.mkFilePath [text]).readDir
    entries.toList.mapM fun entry => do
      match ← guarded entry.path.metadata with
      | .ok metadata =>
        return .ok ⟨entry.fileName, metadata.type == .file, .ok metadata.byteSize.toNat⟩
      | .error fault => return .ok ⟨entry.fileName, false, .error fault⟩
  read path := withText path fun text => guarded do
    return (← IO.FS.readBinFile text).data.toList
  write path bytes := withText path fun text => guarded do
    IO.FS.writeBinFile text (ByteArray.mk bytes.toArray)

end Gossip.CommandLine

open Gossip CommandLine in
/-- Does what the arguments ask for and gives the exit code: two for arguments that make no sense,
one for a failure. -/
def main (arguments : List String) : IO UInt32 := do
  match read arguments with
  | .error misuse =>
    IO.eprintln ("error: " ++ misuse.message)
    return 2
  | .ok .version =>
    IO.println versionText
    return 0
  | .ok (.help topic) =>
    IO.println topic.text
    return 0
  | .ok (.act verbosity action) =>
    let outcome ← run machine action
    let time := toString (← IO.monoMsNow) ++ "ms"
    for piece in outcome.output do
      IO.print (piece.render (.ofVerbosity verbosity) time)
    IO.eprint outcome.complaint
    return UInt32.ofNat outcome.exitCode
