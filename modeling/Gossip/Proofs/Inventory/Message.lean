import Gossip.Inventory.Dispatch
import Gossip.Proofs.Frame.Message
import Gossip.Proofs.Inventory.Acceptance
import Gossip.Proofs.Inventory.ObjectType

/-! Messages and their frames.

`InventoryMessage.frame` is the frame in which a message is written (`write_unbounded`). A frame is
read as a message if its command is the message's and its payload starts with the layout of the
message's inventory (`ofFrame_front`), and in no other case (`eq_of_ofFrame`). -/
namespace Gossip

namespace MessageKind

/-- The command of a kind, as frames have it. -/
def wireCommand : MessageKind → Command
  | .inv => ⟨[0x69, 0x6E, 0x76], by decide, by decide⟩
  | .getData => ⟨[0x67, 0x65, 0x74, 0x64, 0x61, 0x74, 0x61], by decide, by decide⟩
  | .notFound => ⟨[0x6E, 0x6F, 0x74, 0x66, 0x6F, 0x75, 0x6E, 0x64], by decide, by decide⟩

theorem ofText?_command (kind : MessageKind) :
    Command.ofText? kind.command = some kind.wireCommand := by
  cases kind <;> decide

theorem text_wireCommand (kind : MessageKind) : kind.wireCommand.text = kind.command := by
  cases kind <;> decide

theorem ofCommand?_command (kind : MessageKind) : ofCommand? kind.command = some kind := by
  cases kind <;> decide

end MessageKind

/-- Where nothing stands in the way, an inventory is written as a whole. -/
theorem Inventory.encodeFor_unbounded {writer : Stream.Writer} (h : writer.sink.Unbounded)
    (context : String) (version : ProtocolVersion) (inventory : Inventory) :
    inventory.encodeFor context version writer =
      .ok () ⟨writer.sink.grown inventory.encoding,
        writer.bytesWritten + inventory.encodedLength⟩ := by
  rw [encodeFor, if_neg (Nat.not_lt_of_le inventory.size_le_maxItems),
    Encoder.fields_unbounded h, ← length_encoding]
  rfl

namespace InventoryMessage
open Inbound (Ahead)
variable {message : InventoryMessage} {version : ProtocolVersion} {network : Network}
  {limits : Limits}

/-- The message with the kinds that the tags of its items lead to. -/
def canonical (message : InventoryMessage) : InventoryMessage :=
  ⟨message.kind, ⟨message.inventory.canonical⟩⟩

/-- The frame in which the message is written. -/
def frame (network : Network) (message : InventoryMessage) : Frame :=
  .forPayload network message.kind.wireCommand message.inventory.encoding

/-! ### Writing -/

theorem encodedLength_le (version : ProtocolVersion) (inventory : Inventory) :
    inventory.encodedLength ≤ (Inventory.maxPayloadLength version).toNat := by
  have hcount := CompactSize.size_le (UInt64.ofNat inventory.size)
  have hsize : inventory.size ≤ 50000 := inventory.size_le_maxItems
  show CompactSize.size _ + inventory.size * 36 ≤ 1800009
  simp only [CompactSize.maxSize] at hcount
  omega

theorem payload_eq (message : InventoryMessage) (version : ProtocolVersion) :
    Message.payload message version = .ok message.inventory.encoding := by
  have hencode : Message.encode message version Stream.Writer.inMemory =
      .ok () ⟨Stream.Sink.unbounded.grown message.inventory.encoding,
        0 + message.inventory.encodedLength⟩ :=
    Inventory.encodeFor_unbounded Stream.Sink.unbounded_unbounded _ version message.inventory
  have hlen : ¬ (Message.maxPayloadLength message version).toNat <
      message.inventory.encoding.length := by
    rw [Inventory.length_encoding]
    exact Nat.not_lt_of_le (encodedLength_le version message.inventory)
  simp only [Message.payload, hencode, Stream.Sink.taken_grown]
  exact if_neg hlen

theorem write_unbounded (version : ProtocolVersion) (network : Network) (outbound : Outbound)
    (h : outbound.sink.Unbounded)
    (hl : message.inventory.encodedLength ≤ limits.maxPayloadBytes) :
    ∃ log, Frame.write message version network limits outbound =
      .ok (message.frame network).encode.length
        ⟨outbound.sink.grown (message.frame network).encode, log⟩ := by
  rw [← Inventory.length_encoding] at hl
  exact Frame.write_unbounded h message.kind.ofText?_command (message.payload_eq version) hl

theorem length_encoding_lt (message : InventoryMessage) :
    message.inventory.encoding.length < UInt32.size := by
  rw [Inventory.length_encoding]
  exact Nat.lt_of_le_of_lt (encodedLength_le .current message.inventory) (by decide)

theorem valid_frame (hl : message.inventory.encodedLength ≤ limits.maxPayloadBytes) :
    (message.frame network).Valid network limits := by
  rw [← Inventory.length_encoding] at hl
  exact Frame.valid_forPayload message.length_encoding_lt hl

theorem command_frame (network : Network) (message : InventoryMessage) :
    (message.frame network).command = message.kind.command :=
  message.kind.text_wireCommand

/-! ### Reading -/

variable {inbound after : Inbound}

theorem decode_ok (message : InventoryMessage) {inventory : Inventory}
    (h : Inventory.decodeFor (message.kind.name ++ "::decode") version inbound =
      .ok inventory after) :
    Message.decode version (message, inbound) = .ok () (⟨message.kind, ⟨inventory⟩⟩, after) := by
  simp only [Message.decode, h]

theorem eq_of_decode {decoded : InventoryMessage}
    (h : Message.decode version (message, inbound) = .ok () (decoded, after)) :
    ∃ inventory, decoded = ⟨message.kind, ⟨inventory⟩⟩ ∧
      Inventory.decodeFor (message.kind.name ++ "::decode") version inbound =
        .ok inventory after := by
  cases hread : Inventory.decodeFor (message.kind.name ++ "::decode") version inbound with
  | ok inventory state =>
    rw [message.decode_ok hread] at h
    cases h
    exact ⟨inventory, rfl, rfl⟩
  | error error state =>
    simp only [Message.decode, hread] at h
    cases h

variable {frame : Frame} {trailing : Bytes}

theorem ofFrame_front (version : ProtocolVersion) (log : Log)
    (hcommand : frame.command = message.kind.command)
    (hpayload : frame.payload = message.inventory.encoding ++ trailing)
    (hl : frame.payload.length ≤ 1800009) :
    ∃ after, ofFrame frame version log = .ok message.canonical after := by
  have hempty : empty frame.command = .ok ⟨message.kind, .empty⟩ := by
    rw [hcommand, empty, MessageKind.ofCommand?_command]
  have hahead := Decoder.ahead_ofBytes frame.payload log
  rw [hpayload] at hahead
  have hread := Inventory.decodeFor_front (message.kind.name ++ "::decode") version hahead
  rw [Inbound.skip_zero, ← hpayload] at hread
  have hdecode : frame.decodeInto version ((⟨message.kind, .empty⟩ : InventoryMessage), log) =
      .ok () (message.canonical, log) :=
    Frame.decodeInto_ok hcommand hl (decode_ok ⟨message.kind, .empty⟩ hread)
  simp only [ofFrame, hempty, hdecode]
  exact ⟨_, rfl⟩

/-- A message that is decoded from a frame has been decoded into an empty one. -/
theorem decodeInto_of_ofFrame {log after : Log}
    (h : ofFrame frame version log = .ok message after) :
    ∃ start records, empty frame.command = .ok start ∧
      frame.decodeInto version (start, log) = .ok () (message, records) := by
  cases hempty : empty frame.command with
  | error error =>
    simp only [ofFrame, hempty] at h
    cases h
  | ok start =>
    cases hinto : frame.decodeInto version (start, log) with
    | error error state =>
      simp only [ofFrame, hempty, hinto] at h
      cases h
    | ok value state =>
      simp only [ofFrame, hempty, hinto] at h
      cases h
      exact ⟨start, state.2, rfl, hinto⟩

/-- **Only canonical messages are decoded**, each from its own command and layout. -/
theorem eq_of_ofFrame {log after : Log} (h : ofFrame frame version log = .ok message after) :
    frame.command = message.kind.command ∧ message.canonical = message ∧
      ∃ trailing, frame.payload = message.inventory.encoding ++ trailing := by
  obtain ⟨start, records, -, hinto⟩ := decodeInto_of_ofFrame h
  obtain ⟨hcommand, after, hdecode⟩ := Frame.eq_of_decodeInto hinto
  obtain ⟨inventory, rfl, hread⟩ := eq_of_decode hdecode
  obtain ⟨hcanonical, ⟨rest, hahead⟩, -⟩ := Inventory.eq_of_decodeFor _ _ hread
  refine ⟨hcommand, ?_, rest, Decoder.eq_of_ahead_ofBytes hahead⟩
  show InventoryMessage.mk start.kind ⟨inventory.canonical⟩ = _
  rw [hcanonical]

/-! ### Reading from a stream -/

theorem read_ok {records : Log} (hread : Frame.read network limits inbound = .ok frame after)
    (hdecode : ofFrame frame version after.log = .ok message records) :
    read version network limits inbound = .ok message {after with log := records} := by
  simp only [read, hread, hdecode]

/-- A message is read from any valid frame with its command whose payload starts with its layout.
Nothing of what follows the frame is touched. -/
theorem read_valid (version : ProtocolVersion) {start : Inbound} {count : Nat} {rest : Bytes}
    (valid : frame.Valid network limits) (hcommand : frame.command = message.kind.command)
    (hpayload : frame.payload = message.inventory.encoding ++ trailing)
    (hl : frame.payload.length ≤ 1800009) (h : Ahead start count (frame.encode ++ rest)) :
    ∃ log, read version network limits (start.skip count) = .ok message.canonical
      (Inbound.skip (count + frame.encode.length) ⟨start.reader, log⟩) := by
  have hread := Frame.read_front valid h
  obtain ⟨log, hdecode⟩ := ofFrame_front version (start.log ++ [frame.readRecord]) hcommand
    hpayload hl
  have hrun := read_ok hread hdecode
  exact ⟨log, hrun⟩

/-- **A message is read from its frame**, with the kinds that the tags lead to. -/
theorem read_front (version : ProtocolVersion) {start : Inbound} {count : Nat} {rest : Bytes}
    (h : Ahead start count ((message.frame network).encode ++ rest))
    (hl : message.inventory.encodedLength ≤ limits.maxPayloadBytes) :
    ∃ log, read version network limits (start.skip count) = .ok message.canonical
      (Inbound.skip (count + (message.frame network).encode.length) ⟨start.reader, log⟩) := by
  have hpayload : (message.frame network).payload = message.inventory.encoding ++ [] :=
    (List.append_nil _).symm
  refine read_valid version (valid_frame hl) (command_frame network message) hpayload ?_ h
  rw [hpayload, List.append_nil, Inventory.length_encoding]
  exact encodedLength_le version message.inventory

/-- A message that is read has been decoded from a frame that was read. -/
theorem ofFrame_of_read (h : read version network limits inbound = .ok message after) :
    ∃ frame state log, Frame.read network limits inbound = .ok frame state ∧
      ofFrame frame version state.log = .ok message log ∧ after = {state with log} := by
  cases hread : Frame.read network limits inbound with
  | error error state =>
    simp only [read, hread] at h
    cases h
  | ok frame state =>
    simp only [read, hread] at h
    split at h
    · rename_i decoded log hdecode
      cases h
      exact ⟨frame, state, log, rfl, hdecode, rfl⟩
    · cases h

/-- **What is read as a message** is a valid frame with the command of the message, whose payload
starts with the layout of the message. -/
theorem eq_of_read (h : read version network limits inbound = .ok message after) :
    ∃ (frame : Frame) (rest trailing : Bytes) (log : Log), frame.Valid network limits ∧
      Ahead inbound 0 (frame.encode ++ rest) ∧ frame.command = message.kind.command ∧
        frame.payload = message.inventory.encoding ++ trailing ∧ message.canonical = message ∧
          after = {inbound.skip frame.encode.length with log} := by
  obtain ⟨frame, state, log, hread, hdecode, rfl⟩ := ofFrame_of_read h
  obtain ⟨valid, ⟨rest, hahead⟩, rfl⟩ := Frame.eq_of_read hread
  obtain ⟨hcommand, hcanonical, trailing, hpayload⟩ := eq_of_ofFrame hdecode
  exact ⟨frame, rest, trailing, log, valid, hahead, hcommand, hpayload, hcanonical, rfl⟩

end InventoryMessage
end Gossip
