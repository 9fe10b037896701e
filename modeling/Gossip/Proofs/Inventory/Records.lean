import Gossip.Proofs.Frame.Records
import Gossip.Proofs.Inventory.Dispatch
import Gossip.Proofs.Respects

/-! What reading a message leaves in the log.

`Log.Tells` says which records belong to what the frame and the message came to: a warning for each
rejection and for nothing else, a record of the frame if there is one, a record of the message if it
is decoded, in this order, and nothing besides. `InventoryMessage.log_tells` says that reading a
message from any source adds such records to the log, whatever is in it. -/
namespace Gossip

/-! ### Inventories -/

namespace Inventory
variable (context : String) (version : ProtocolVersion)

/-- Where there is room for all items, none of them is turned down. By induction on the number of
items that are still to be read. -/
theorem records_readItems (announced : Nat) {count : Nat} {inventory : Inventory}
    (room : inventory.size + count ≤ maxItems) :
    (readItems context version announced count inventory).Records fun _ => [] := by
  induction count generalizing inventory with
  | zero => exact Decoder.records_pure inventory
  | succ count ih =>
    rw [readItems_succ]
    refine (Decoder.records_field _).bind fun item => ?_
    obtain ⟨grown, hpush, -, hsize⟩ := push_ok context item (show inventory.size < maxItems by omega)
    simp only [hpush]
    exact ih (by omega)

/-- A count over the bound leaves a warning, and any other count leaves room for the items. -/
theorem records_decodeFor : (decodeFor context version).Records fun _ => [] := by
  refine (Decoder.records_field _).bind fun count => ?_
  split
  · exact Decoder.records_reject _ _ rfl
  · rename_i hfits
    apply records_readItems
    rw [size_withCapacity, Nat.zero_add]
    exact Nat.le_of_not_lt hfits

end Inventory

/-! ### Payloads -/

/-- Decoding the payload of a frame leaves one record of the message. -/
theorem InventoryMessage.recorded_ofFrame (frame : Frame) (version : ProtocolVersion) (log : Log) :
    Recorded id (fun message => [message.decodedRecord]) log (ofFrame frame version log) := by
  cases hkind : MessageKind.ofCommand? frame.command with
  | none =>
    simp only [ofFrame, empty, hkind]
    exact .error (.nothing rfl) (List.append_nil log).symm
  | some kind =>
    have hcommand : frame.command = Message.command (⟨kind, .empty⟩ : InventoryMessage) :=
      MessageKind.ofCommand?_eq_some.mp hkind
    simp only [ofFrame, empty, hkind]
    by_cases hl : 1800009 < frame.payload.length
    · rw [Carrier.ofAnyKind.decodeInto_long hcommand hl]
      exact .error (.warning .frames _ rfl) rfl
    rw [Carrier.ofAnyKind.decodeInto_eq hcommand (Nat.le_of_not_lt hl)]
    have hread := Inventory.records_decodeFor
      ((Carrier.ofAnyKind.kind (⟨kind, .empty⟩ : InventoryMessage)).name ++ "::decode") version
      ⟨.ofBytes frame.payload, log⟩
    generalize Inventory.decodeFor _ version ⟨.ofBytes frame.payload, log⟩ = result at hread
    cases hread with
    | ok hlog =>
      refine .ok ?_
      rw [hlog, List.append_nil]
      rfl
    | error hleaves hlog => exact .error hleaves hlog

/-! ### Messages -/

/-- Is it a record for debugging that begins with a word? -/
def Log.Record.debugs (word : String) (entry : Log.Record) : Bool :=
  entry.level == .debug && word.toList.isPrefixOf entry.text.toList

def Log.Record.isWarning (entry : Log.Record) : Bool := entry.level == .warn

/-- The records of one reading, given what the frame and the message came to. -/
structure Log.Tells (records : Log) (frame : Except DecodeError Frame)
    (message : Except DecodeError InventoryMessage) : Prop where
  /-- A rejection is warned about exactly once, and nothing else is. -/
  warnings : records.countP Record.isWarning =
    match message with
    | .ok _ => 0
    | .error error => if error.isWarned then 1 else 0
  /-- The frame has its record, also if its payload is rejected. -/
  reading : records.filter (Record.debugs "read ") = frame.toOption.toList.map Frame.readRecord
  /-- A warning about the payload comes after the record of the frame. -/
  readingFirst : records.Pairwise fun earlier later =>
    later.debugs "read " = true → earlier.isWarning = false
  /-- The message has its record. -/
  decoding : records.filter (Record.debugs "decoded ") =
    message.toOption.toList.map InventoryMessage.decodedRecord
  /-- The record of the message comes last. -/
  decodingLast : records.Pairwise fun earlier _ => earlier.debugs "decoded " = false
  nothingElse : ∀ entry ∈ records,
    entry.isWarning ∨ entry.debugs "read " ∨ entry.debugs "decoded "

/-! What each record counts as. -/

@[simp] theorem Log.Record.isWarning_warn (origin : Log.Origin) (text : String) :
    isWarning ⟨.warn, origin, text⟩ = true := rfl

@[simp] theorem Log.Record.debugs_warn (word : String) (origin : Log.Origin) (text : String) :
    debugs word ⟨.warn, origin, text⟩ = false := rfl

namespace Frame
variable (frame : Frame)

@[simp] theorem isWarning_readRecord : frame.readRecord.isWarning = false := rfl

@[simp] theorem debugs_read : frame.readRecord.debugs "read " = true := by
  simp [readRecord, Log.Record.debugs, toString]

@[simp] theorem debugs_read_decoded : frame.readRecord.debugs "decoded " = false := by
  simp [readRecord, Log.Record.debugs, toString, List.isPrefixOf]

end Frame

namespace InventoryMessage
variable (message : InventoryMessage)

@[simp] theorem isWarning_decodedRecord : message.decodedRecord.isWarning = false := rfl

@[simp] theorem debugs_decoded : message.decodedRecord.debugs "decoded " = true := by
  simp [decodedRecord, Log.Record.debugs, toString]

@[simp] theorem debugs_decoded_read : message.decodedRecord.debugs "read " = false := by
  simp [decodedRecord, Log.Record.debugs, toString, List.isPrefixOf]

end InventoryMessage

namespace Log.Tells
variable {records : Log} {error : DecodeError}

/-- There is no frame. -/
theorem unread (h : error.Leaves records) : Tells records (.error error) (.error error) := by
  cases h with
  | nothing h => constructor <;> simp [h, Except.toOption]
  | warning origin text h => constructor <;> simp [h, Except.toOption]

/-- There is a frame, and its payload is not decoded. -/
theorem refused (frame : Frame) (h : error.Leaves records) :
    Tells (frame.readRecord :: records) (.ok frame) (.error error) := by
  cases h with
  | nothing h => constructor <;> simp [h, Except.toOption]
  | warning origin text h => constructor <;> simp [h, Except.toOption]

/-- There is a message. -/
theorem decoded (frame : Frame) (message : InventoryMessage) :
    Tells [frame.readRecord, message.decodedRecord] (.ok frame) (.ok message) := by
  constructor <;> simp [Except.toOption]

end Log.Tells

/-- **Reading a message leaves exactly the records that tell what became of it**, whatever the source
and whatever was recorded before. -/
theorem InventoryMessage.log_tells (version : ProtocolVersion) (network : Network) (limits : Limits)
    (inbound : Inbound) :
    ∃ records, (endState (read version network limits inbound)).log = inbound.log ++ records ∧
      records.Tells (answer (Frame.read network limits inbound))
        (answer (read version network limits inbound)) := by
  have hframe := Frame.records_read network limits inbound
  cases hread : Frame.read network limits inbound with
  | error error after =>
    rw [hread] at hframe
    obtain _ | ⟨hleaves, hlog⟩ := hframe
    simp only [read, hread]
    exact ⟨_, hlog, .unread hleaves⟩
  | ok frame after =>
    rw [hread] at hframe
    obtain ⟨hlog⟩ | _ := hframe
    have hmessage := recorded_ofFrame frame version after.log
    rw [hlog] at hmessage
    cases hdecode : ofFrame frame version (inbound.log ++ [frame.readRecord]) with
    | error error log =>
      rw [hdecode] at hmessage
      obtain _ | ⟨hleaves, hdecoded⟩ := hmessage
      simp only [read, hread, hlog, hdecode]
      exact ⟨_, hdecoded.trans (List.append_assoc ..), .refused frame hleaves⟩
    | ok message log =>
      rw [hdecode] at hmessage
      obtain ⟨hdecoded⟩ | _ := hmessage
      simp only [read, hread, hlog, hdecode]
      exact ⟨_, hdecoded.trans (List.append_assoc ..), .decoded frame message⟩

end Gossip
