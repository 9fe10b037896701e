import Gossip.Inventory.Dispatch
import Gossip.Report.Failure

/-! What the tools have in common: a job that logs and may fail, and the reading of one frame. -/
namespace Gossip

/-- A job of the tools. The records made so far stay when it fails. -/
abbrev Job := EStateM Failure Log

namespace Job

/-- Makes a record. -/
def record (entry : Log.Record) : Job Unit := fun log => .ok () (log ++ [entry])

/-- Reads the frame at the front of a byte string, and counts the bytes after it. -/
def readFrame (bytes : Bytes) (network : Network) (limits : Limits) : Job (Frame × Nat) :=
  fun log =>
    match Frame.read network limits ⟨.ofBytes bytes, log⟩ with
    | .ok frame inbound => .ok (frame, inbound.reader.source.remaining) inbound.log
    | .error error inbound =>
      .error (.during "read framed message" (.decoding error)) inbound.log

/-- Decodes the payload of a frame in the course of a task. -/
def decodePayload (task : String) (frame : Frame) (version : ProtocolVersion) :
    Job InventoryMessage := fun log =>
  match InventoryMessage.ofFrame frame version log with
  | .ok message log => .ok message log
  | .error error log => .error (.during task (.decoding error)) log

end Job
end Gossip
