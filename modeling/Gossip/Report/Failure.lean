import Gossip.Bytes.Hex
import Gossip.Glob
import Gossip.Inventory.Basic

/-! Failures of the tools.

A failure is its root cause and what was being done when it arose, the outermost task first. -/
namespace Gossip

/-- What the file system says when it refuses. -/
inductive FileFault where
  | notFound
  | notDirectory
  | isDirectory
  | nameTooLong
  | other (message : String)
  deriving DecidableEq, Repr

def FileFault.message : FileFault → String
  | .notFound => "No such file or directory (os error 2)"
  | .notDirectory => "Not a directory (os error 20)"
  | .isDirectory => "Is a directory (os error 21)"
  | .nameTooLong => "File name too long (os error 36)"
  | .other message => message

/-- The root cause of a failure. -/
inductive Cause where
  | decoding (error : DecodeError)
  | encoding (error : EncodeError)
  | capacity (error : CapacityExceeded)
  | hash (fault : Hex.Fault)
  | numeral (fault : Text.Numeral.Fault)
  | pattern (error : Glob.SyntaxError)
  | file (fault : FileFault)
  /-- An item that has no colon. -/
  | itemForm (spec : String)
  /-- A command that no message with an inventory goes by. -/
  | otherCommand (command : String)
  deriving DecidableEq, Repr

def Cause.message : Cause → String
  | .decoding error => error.message
  | .encoding error => error.message
  | .capacity error => error.message
  | .hash fault => fault.message
  | .numeral fault => fault.message
  | .pattern error => error.message
  | .file fault => fault.message
  | .itemForm spec => "item " ++ Text.Quoted.text spec ++ " is not of the form TYPE:HASH"
  | .otherCommand command => Text.Quoted.text command ++ " is not an inventory command"

structure Failure where
  tasks : List String
  cause : Cause
  deriving DecidableEq, Repr

namespace Failure

/-- A failure that arose in a task. -/
def during (task : String) (cause : Cause) : Failure := ⟨[task], cause⟩

/-- A failure that speaks for itself. -/
def ofCause (cause : Cause) : Failure := ⟨[], cause⟩

/-- The tasks and the cause, the outermost task first. -/
def chain (failure : Failure) : List String := failure.tasks ++ [failure.cause.message]

/-- The outermost task, or else the cause. -/
def message (failure : Failure) : String := failure.tasks.headD failure.cause.message

/-- The whole chain on one line. -/
def line (failure : Failure) : String := String.intercalate ": " failure.chain

/-- The message, and below it what it was caused by; several causes are numbered. -/
def text (failure : Failure) : String :=
  let causes := match failure.chain.tail with
    | [] => []
    | [cause] => ["", "Caused by:", "    " ++ cause]
    | causes =>
      "" :: "Caused by:" :: causes.zipIdx.map fun (cause, index) =>
        "".pushn ' ' (5 - (toString index).length) ++ s!"{index}: {cause}"
  String.intercalate "\n" (failure.message :: causes)

end Failure
end Gossip
