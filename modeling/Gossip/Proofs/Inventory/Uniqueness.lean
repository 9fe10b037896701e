import Gossip.Proofs.Inventory.Message

/-! Which payloads stand for the same message.

A message that is decoded determines the bytes it was decoded from: they are its layout. What stands
behind the layout it does not determine, because decoding ends with the last item and does not look
at the rest of the payload. So the payloads of one message agree up to the end of its layout
(`payload_unique`), and that is all: a byte more makes another payload of the same message
(`payload_not_unique`). -/
namespace Gossip.InventoryMessage

variable {version : ProtocolVersion} {message : InventoryMessage}

/-- A payload starts with the layout of the message that is decoded from it. -/
theorem payload_front {frame : Frame} {log after : Log}
    (h : ofFrame frame version log = .ok message after) :
    message.inventory.encodedLength ≤ frame.payload.length ∧
      frame.payload.take message.inventory.encodedLength = message.inventory.encoding := by
  obtain ⟨-, -, trailing, hpayload⟩ := eq_of_ofFrame h
  rw [hpayload, List.length_append, ← Inventory.length_encoding]
  exact ⟨Nat.le_add_right .., List.take_left⟩

/-- **Payloads of the same message agree up to the end of its layout.** They are the same if and
only if what they carry behind it is, and so they are if they carry nothing behind it. -/
theorem payload_unique {a b : Frame} {log log' after after' : Log}
    (ha : ofFrame a version log = .ok message after)
    (hb : ofFrame b version log' = .ok message after') :
    let length := message.inventory.encodedLength
    (length ≤ a.payload.length ∧ length ≤ b.payload.length) ∧
    a.payload.take length = b.payload.take length ∧
    (a.payload = b.payload ↔ a.payload.drop length = b.payload.drop length) ∧
    (a.payload.length = length → b.payload.length = length → a.payload = b.payload) := by
  intro length
  obtain ⟨hla, hfronta⟩ := payload_front ha
  obtain ⟨hlb, hfrontb⟩ := payload_front hb
  have hfront : a.payload.take length = b.payload.take length := hfronta.trans hfrontb.symm
  have hsame (h : a.payload.drop length = b.payload.drop length) : a.payload = b.payload := by
    rw [← List.take_append_drop length a.payload, hfront, h, List.take_append_drop]
  refine ⟨⟨hla, hlb⟩, hfront, ⟨congrArg (List.drop length), hsame⟩, fun h h' => hsame ?_⟩
  rw [List.drop_eq_nil_of_le (Nat.le_of_eq h), List.drop_eq_nil_of_le (Nat.le_of_eq h')]

/-- The frame in which a payload goes out as a request. -/
def request (payload : Bytes) : Frame :=
  .forPayload .regtest MessageKind.getData.wireCommand payload

theorem command_request (payload : Bytes) :
    (request payload).command = MessageKind.getData.command :=
  MessageKind.getData.text_wireCommand

/-- Any bytes may stand behind the layout of a request. -/
theorem ofFrame_request (version : ProtocolVersion) {inventory : Inventory} (trailing : Bytes)
    (log : Log) (h : inventory.canonical = inventory)
    (hl : (inventory.encoding ++ trailing).length ≤ 1800009) :
    ∃ after, ofFrame (request (inventory.encoding ++ trailing)) version log =
      .ok ⟨.getData, ⟨inventory⟩⟩ after := by
  have hcanonical : canonical ⟨.getData, ⟨inventory⟩⟩ = ⟨.getData, ⟨inventory⟩⟩ :=
    congrArg (fun inventory => InventoryMessage.mk .getData ⟨inventory⟩) h
  rw [← hcanonical]
  exact ofFrame_front version log (command_request _) rfl hl

/-- Two payloads of a request for one block, with a byte behind its layout and with another. -/
theorem payload_unique_request :
    let layout : Bytes := [1, 2, 0, 0, 0] ++ List.replicate 32 0xAB
    let message : InventoryMessage :=
      ⟨.getData, ⟨⟨#[⟨.block, ⟨⟨List.replicate 32 0xAB, rfl⟩⟩⟩], by decide⟩⟩⟩
    ∃ after after', ofFrame (request (layout ++ [0x2A])) .current [] = .ok message after ∧
      ofFrame (request (layout ++ [0x2B])) .current [] = .ok message after' ∧
      (layout ++ [0x2A]).take 37 = (layout ++ [0x2B]).take 37 := by
  intro layout message
  have hcanonical : message.inventory.canonical = message.inventory := by
    apply (Inventory.canonical_eq_self_iff _).mpr
    intro item hitem
    obtain rfl := List.mem_singleton.mp hitem
    rfl
  have hlayout : message.inventory.encoding = layout := by decide
  obtain ⟨after, ha⟩ := ofFrame_request .current [0x2A] [] hcanonical (by decide)
  obtain ⟨after', hb⟩ := ofFrame_request .current [0x2B] [] hcanonical (by decide)
  rw [hlayout] at ha hb
  exact ⟨after, after', ha, hb, (payload_unique ha hb).2.1⟩

/-- A message does not determine its payload: an empty request is decoded from a payload that ends
with it and from one that has a byte more. -/
theorem payload_not_unique : ¬ ∀ (kind : MessageKind) (version : ProtocolVersion) (a b : Frame)
    (m n : InventoryMessage) (log log' after after' : Log),
    a.command = kind.command → b.command = kind.command →
    ofFrame a version log = .ok m after → ofFrame b version log' = .ok n after' → m = n →
    a.payload = b.payload := by
  intro h
  have hcanonical : Inventory.empty.canonical = .empty :=
    (Inventory.canonical_eq_self_iff _).mpr fun _ hitem => absurd hitem List.not_mem_nil
  obtain ⟨after, ha⟩ := ofFrame_request .current [] [] hcanonical (by decide)
  obtain ⟨after', hb⟩ := ofFrame_request .current [0x2A] [] hcanonical (by decide)
  have hsame : [0] = ([0, 0x2A] : Bytes) := h .getData .current (request [0]) (request [0, 0x2A])
    _ _ [] [] after after' (command_request _) (command_request _) ha hb rfl
  exact absurd hsame (by decide)

end Gossip.InventoryMessage
