import Gossip.Json.Printer
import Gossip.Report.Basic

/-! The inspection of a frame: what its header says and, of an inventory, how many items there are
of each kind. A frame with any other payload is inspected without decoding the payload. -/
namespace Gossip

/-- How many items an inventory has, and how many of each kind, by the name of the kind. -/
structure Summary where
  count : Nat
  /-- In ascending order of the names; no name comes twice. -/
  byType : List (String × Nat)
  deriving DecidableEq, Repr

namespace Summary

/-- Counts one more name. Equal names come one after the other, and the latest count first. -/
def tally (counts : List (String × Nat)) (name : String) : List (String × Nat) :=
  match counts with
  | (latest, count) :: earlier =>
    if latest = name then (latest, count + 1) :: earlier else (name, 1) :: counts
  | [] => [(name, 1)]

/-- The different names in ascending order, and how often each occurs. -/
def countNames (names : List String) : List (String × Nat) :=
  let sorted := names.mergeSort fun a b => decide (a ≤ b)
  (sorted.foldl tally []).reverse

def ofInventory (inventory : Inventory) : Summary where
  count := inventory.size
  byType := countNames (inventory.toList.map fun item => item.type.text)

def diagnostic (summary : Summary) : String :=
  let counts := summary.byType.map fun (name, count) => (Text.Quoted.text name, toString count)
  Text.Diagnostic.record "InventorySummary"
    [("count", toString summary.count), ("by_type", Text.Diagnostic.mapping counts)]

def toJson (summary : Summary) : Json :=
  .ofFields [("count", .ofNat summary.count),
    ("by_type", .ofFields (summary.byType.map fun (name, count) => (name, .ofNat count)))]

end Summary

structure Inspection where
  network : Network
  command : Command
  payloadLength : Nat
  checksum : Checksum
  /-- Given for messages that carry an inventory. -/
  inventory : Option Summary
  deriving DecidableEq, Repr

namespace Inspection

/-- Inspects the frame at the front of a byte string. -/
def ofBytes (bytes : Bytes) (network : Network) (limits : Limits) (version : ProtocolVersion) :
    Job Inspection := do
  let (frame, trailing) ← Job.readFrame bytes network limits
  if 0 < trailing then
    Job.record ⟨.warn, .tools, s!"{trailing} trailing bytes after frame ignored"⟩
  let inventory ← match MessageKind.ofCommand? frame.command with
    | none => pure none
    | some _ => do
      let message ← Job.decodePayload "decode inventory payload" frame version
      pure (some (.ofInventory message.inventory))
  return {
    network
    command := frame.header.command
    payloadLength := frame.payload.length
    checksum := frame.header.checksum
    inventory }

def checksumText (report : Inspection) : String := Hex.encode report.checksum.bytes

def diagnostic (report : Inspection) : String :=
  Text.Diagnostic.record "InspectReport"
    [("network", Text.Quoted.text report.network.name),
      ("command", Text.Quoted.text report.command.text),
      ("payload_len", toString report.payloadLength),
      ("checksum", Text.Quoted.text report.checksumText),
      ("inventory", Text.Diagnostic.optional (report.inventory.map Summary.diagnostic))]

def toJson (report : Inspection) : Json :=
  .ofFields [("network", .ofString report.network.name),
    ("command", .ofString report.command.text), ("payload_len", .ofNat report.payloadLength),
    ("checksum", .ofString report.checksumText),
    ("inventory", (report.inventory.map Summary.toJson).getD .null)]

/-- The lines that show the report. -/
def lines (report : Inspection) : List String :=
  let inventory := match report.inventory with
    | none => ["inventory: n/a"]
    | some summary =>
      s!"inventory: {summary.count} vectors" ::
        summary.byType.map fun (name, count) => s!"  {name}: {count}"
  s!"network: {report.network.name} command: {report.command.text} checksum: {report.checksumText}"
    :: s!"payload_len: {report.payloadLength} bytes" :: inventory

end Inspection
end Gossip
