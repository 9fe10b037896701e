/-! Log records.

A computation that logs hands its records back with its result, in order. -/
namespace Gossip.Log

/-- How urgent a record is, most urgent first. -/
inductive Level where
  | warn
  | info
  | debug
  | trace
  deriving DecidableEq, Repr

namespace Level

def name : Level → String
  | .warn => "WARN"
  | .info => "INFO"
  | .debug => "DEBUG"
  | .trace => "TRACE"

/-- Levels grow as they become more detailed. -/
def detail : Level → Nat
  | .warn => 0
  | .info => 1
  | .debug => 2
  | .trace => 3

end Level

/-- The part of the program that a record comes from. -/
inductive Origin where
  | frames
  | lists
  | dispatch
  | tools
  deriving DecidableEq, Repr

def Origin.name : Origin → String
  | .frames => "wire::frame"
  | .lists => "codec::list"
  | .dispatch => "codec::dispatch"
  | .tools => "invwire_tools"

structure Record where
  level : Level
  origin : Origin
  text : String
  deriving DecidableEq, Repr

namespace Record

/-- Is the record shown when everything up to a level is? -/
def isShownAt (threshold : Level) (record : Record) : Bool :=
  record.level.detail ≤ threshold.detail

/-- The line of a record made at the given time. -/
def line (time : String) (record : Record) : String :=
  let level := record.level.name.pushn ' ' (5 - record.level.name.length)
  time ++ " " ++ level ++ " [" ++ record.origin.name ++ "] " ++ record.text

end Record
end Gossip.Log

namespace Gossip

/-- Records in the order in which they were made. -/
abbrev Log := List Log.Record

end Gossip
