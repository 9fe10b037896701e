import Gossip.Proofs.Inventory.Carrier
import Gossip.Proofs.Inventory.Message
import Gossip.Proofs.Respects

/-! How long the encoding of an inventory is.

The length is predicted (`encodedLength`), bounded (`maxPayloadLength`), and comes out when the
inventory is written. `sizes_agree` says that these are the same number, that it has its place in a
machine word, and that nothing that looks at a length stands in the way of a message with an
inventory: neither when its payload is made, nor when it is decoded, nor when the message is sent
within the limits (`Fits`). -/
namespace Gossip

/-! ### Machine words -/

namespace Inventory

/-- The predicted length as it is computed. -/
def wordLength (inventory : Inventory) : USize :=
  USize.ofNat (CompactSize.size (UInt64.ofNat inventory.size)) +
    USize.ofNat inventory.size * USize.ofNat Item.size

/-- The bound as it is computed. -/
def wordBound : UInt32 :=
  (USize.ofNat CompactSize.maxSize + USize.ofNat maxItems * USize.ofNat Item.size).toUInt32

theorem toNat_wordLength (inventory : Inventory) :
    inventory.wordLength.toNat = inventory.encodedLength := by
  have hword : inventory.wordLength = USize.ofNat inventory.encodedLength := by
    rw [wordLength, ← USize.ofNat_mul, ← USize.ofNat_add]
    rfl
  have hbound := InventoryMessage.encodedLength_le .current inventory
  have hfits : inventory.encodedLength < USize.size :=
    Nat.lt_of_lt_of_le (Nat.lt_of_le_of_lt hbound (by decide)) USize.le_size
  rw [hword, USize.toNat_ofNat_of_lt' hfits]

theorem wordBound_eq (version : ProtocolVersion) : wordBound = maxPayloadLength version := by
  rw [wordBound, ← USize.ofNat_mul, ← USize.ofNat_add, USize.toUInt32_ofNat']
  rfl

/-! ### Messages -/

/-- What a message with an inventory makes of its encoding, on the way out and back. -/
structure Fits {M : Type} [Message M] (message : M) (inventory : Inventory)
    (version : ProtocolVersion) : Prop where
  payload : Message.payload message version = .ok inventory.encoding
  /-- A frame with this payload is refused for its command or not at all, by any such message. -/
  decode : ∀ frame : Frame, frame.payload = inventory.encoding →
    ∀ (version : ProtocolVersion) (target : M) (log : Log),
      answer (frame.decodeInto version (target, log)) =
        if frame.command = Message.command target then .ok ()
        else .error (.commandMismatch (Message.command target) frame.command)
  write : ∀ (network : Network) (limits : Limits) (outbound : Outbound), outbound.sink.Unbounded →
    answer (Frame.write message version network limits outbound) =
      if inventory.encodedLength ≤ limits.maxPayloadBytes then .ok (24 + inventory.encodedLength)
      else .error (.overLimit .payloadBytes limits.maxPayloadBytes inventory.encodedLength)

end Inventory

variable {M : Type} [Message M] (carrier : Carrier M) {message : M} {inventory : Inventory}
  {version : ProtocolVersion}

include carrier in
theorem Carrier.answer_decodeInto {frame : Frame} (h : frame.payload = inventory.encoding)
    (log : Log) : answer (frame.decodeInto version (message, log)) =
      if frame.command = Message.command message then .ok ()
      else .error (.commandMismatch (Message.command message) frame.command) := by
  by_cases hcommand : frame.command = Message.command message
  · have hlength : frame.payload.length ≤ 1800009 := by
      rw [h, Inventory.length_encoding]
      exact InventoryMessage.encodedLength_le version inventory
    have hahead := Decoder.ahead_ofBytes inventory.encoding log
    rw [← List.append_nil inventory.encoding] at hahead
    have hread := Inventory.decodeFor_front ((carrier.kind message).name ++ "::decode") version
      hahead
    rw [Inbound.skip_zero, List.append_nil] at hread
    rw [if_pos hcommand, carrier.decodeInto_eq hcommand hlength, h, hread]
    rfl
  · rw [if_neg hcommand, Frame.decodeInto, if_pos hcommand]
    rfl

include carrier in
theorem Carrier.fits (hpayload : Message.payload message version = .ok inventory.encoding) :
    Inventory.Fits message inventory version where
  payload := hpayload
  decode frame h version target log := carrier.answer_decodeInto h log
  write network limits outbound hsink := by
    have hcommand : Command.ofText? (Message.command message) =
        some (carrier.kind message).wireCommand := by
      rw [carrier.command]
      exact MessageKind.ofText?_command _
    rw [← Inventory.length_encoding]
    by_cases hl : inventory.encoding.length ≤ limits.maxPayloadBytes
    · obtain ⟨log, hwrite⟩ : ∃ log, Frame.write message version network limits outbound = _ :=
        Frame.write_unbounded hsink hcommand hpayload hl
      rw [if_pos hl, hwrite, answer, Frame.length_encode]
      rfl
    · rw [if_neg hl, Frame.write_over_limit hcommand hpayload (Nat.lt_of_not_le hl)]
      rfl

/-- **Predicted and actual sizes agree, and they fit.** An inventory is encoded to as many bytes as
predicted, by itself and in a message of each kind, and they are never more than the bound, nor too
many to be sent, except by the limits, or to be received. -/
theorem Inventory.sizes_agree (inventory : Inventory) (version : ProtocolVersion) :
    (∀ writer : Stream.Writer, writer.sink.Unbounded → ∃ after,
      inventory.encode version writer = .ok () after ∧
      after.sink.taken = writer.sink.taken ++ inventory.encoding ∧
      after.bytesWritten = writer.bytesWritten + inventory.encodedLength) ∧
    inventory.encoding.length = inventory.encodedLength ∧
    inventory.encodedLength ≤ (maxPayloadLength version).toNat ∧
    (UInt64.ofNat inventory.size).toNat = inventory.size ∧
    inventory.wordLength.toNat = inventory.encodedLength ∧
    wordBound = maxPayloadLength version ∧
    (maxPayloadLength version).toNat = CompactSize.maxSize + 50000 * 36 ∧
    ∀ kind, Fits (⟨inventory⟩ : InventoryOf kind) inventory version ∧
      Fits (⟨kind, ⟨inventory⟩⟩ : InventoryMessage) inventory version := by
  refine ⟨?encode, inventory.length_encoding, InventoryMessage.encodedLength_le version inventory,
    inventory.toNat_size, inventory.toNat_wordLength, wordBound_eq version, rfl, ?fits⟩
  case encode =>
    intro writer h
    exact ⟨_, encodeFor_unbounded h _ version inventory, Stream.Sink.taken_grown .., rfl⟩
  case fits =>
    intro kind
    have hpayload := InventoryMessage.payload_eq ⟨kind, ⟨inventory⟩⟩ version
    exact ⟨(Carrier.ofKind kind).fits hpayload, Carrier.ofAnyKind.fits hpayload⟩

end Gossip
