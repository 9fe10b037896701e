import Gossip.Inventory.JsonForm
import Gossip.Report.Basic

/-! The transcript of a frame: its message, decoded in full. -/
namespace Gossip

structure Transcript where
  network : Network
  command : Command
  payloadLength : Nat
  message : InventoryMessage
  deriving DecidableEq

namespace Transcript

/-- Decodes the frame at the front of a byte string. -/
def ofBytes (bytes : Bytes) (network : Network) (limits : Limits) (version : ProtocolVersion) :
    Job Transcript := do
  let (frame, _) ← Job.readFrame bytes network limits
  let message ← Job.decodePayload s!"decode {frame.command} payload" frame version
  return {
    network
    command := frame.header.command
    payloadLength := frame.payload.length
    message }

def toJson (report : Transcript) : Json :=
  .ofFields [("network", .ofString report.network.name),
    ("command", .ofString report.command.text), ("payload_len", .ofNat report.payloadLength),
    ("message", report.message.toJson)]

/-- The line of an item with its place in the inventory. -/
def itemLine (index : Nat) (item : Item) : String :=
  s!"  [{index}] {item.type.text} {item.hash.text}"

/-- The lines that show the report, an item a line. -/
def lines (report : Transcript) : List String :=
  let inventory := report.message.inventory
  s!"{report.command.text} on {report.network.name} ({report.payloadLength} payload bytes)" ::
    s!"inventory: {inventory.size} vectors" ::
    inventory.toList.zipIdx.map fun (item, index) => itemLine index item

/-- The lines, each with its end. -/
def text (report : Transcript) : String :=
  report.lines.foldl (fun out line => out ++ line ++ "\n") ""

end Transcript
end Gossip
