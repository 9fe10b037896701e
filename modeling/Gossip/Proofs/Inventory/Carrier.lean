import Gossip.Proofs.Frame.Message
import Gossip.Proofs.Inventory.Counting

/-! Messages that carry an inventory.

To its contract such a message is a kind and an inventory: it goes by the command of the kind, and
the inventory is what it takes in whole when it decodes. `Carrier` says so for any type of messages,
and there are two: messages of one kind, and messages of any kind.

What a frame comes to in such a message has to do with nothing but the kind
(`Carrier.exists_decodeInto`). -/
namespace Gossip

/-- What a type of messages owes to be, by its contract, a kind and an inventory. -/
structure Carrier (M : Type) [Message M] where
  kind : M → MessageKind
  inventory : M → Inventory
  /-- The message with another inventory. -/
  withInventory : M → Inventory → M
  kind_with (message : M) (other : Inventory) : kind (withInventory message other) = kind message
  inventory_with (message : M) (other : Inventory) :
    inventory (withInventory message other) = other
  command (message : M) : Message.command message = (kind message).command
  maxPayloadLength (message : M) (version : ProtocolVersion) :
    Message.maxPayloadLength message version = Inventory.maxPayloadLength version
  decode_ok {message : M} {version : ProtocolVersion} {inbound after : Inbound}
    {decoded : Inventory} :
    Inventory.decodeFor ((kind message).name ++ "::decode") version inbound = .ok decoded after →
    Message.decode version (message, inbound) = .ok () (withInventory message decoded, after)
  decode_error {message : M} {version : ProtocolVersion} {inbound after : Inbound}
    {error : DecodeError} :
    Inventory.decodeFor ((kind message).name ++ "::decode") version inbound = .error error after →
    Message.decode version (message, inbound) = .error error (message, after)

namespace Carrier

def ofKind (kind : MessageKind) : Carrier (InventoryOf kind) where
  kind _ := kind
  inventory := InventoryOf.inventory
  withInventory _ other := ⟨other⟩
  kind_with _ _ := rfl
  inventory_with _ _ := rfl
  command _ := rfl
  maxPayloadLength _ _ := rfl
  decode_ok h := InventoryOf.decode_ok _ h
  decode_error h := InventoryOf.decode_error _ h

def ofAnyKind : Carrier InventoryMessage where
  kind := InventoryMessage.kind
  inventory := InventoryMessage.inventory
  withInventory message other := ⟨message.kind, ⟨other⟩⟩
  kind_with _ _ := rfl
  inventory_with _ _ := rfl
  command _ := rfl
  maxPayloadLength _ _ := rfl
  decode_ok h := by simp only [Message.decode, h]
  decode_error h := by simp only [Message.decode, h]

variable {M σ : Type} [Message M] (carrier : Carrier M) {message left : M} {state after : σ}
  {result : EStateM.Result DecodeError σ Inventory}

/-- What decoding into a message comes to when reading an inventory comes to this. -/
def outcome (message : M) :
    EStateM.Result DecodeError σ Inventory → EStateM.Result DecodeError (M × σ) Unit
  | .ok decoded after => .ok () (carrier.withInventory message decoded, after)
  | .error error after => .error error (message, after)

theorem decode_eq (message : M) (version : ProtocolVersion) (inbound : Inbound) :
    Message.decode version (message, inbound) = carrier.outcome message
      (Inventory.decodeFor ((carrier.kind message).name ++ "::decode") version inbound) := by
  cases hread : Inventory.decodeFor _ version inbound with
  | ok decoded after => exact carrier.decode_ok hread
  | error error after => exact carrier.decode_error hread

theorem eq_of_outcome_ok (h : carrier.outcome message result = .ok () (left, after)) :
    ∃ decoded, result = .ok decoded after ∧ left = carrier.withInventory message decoded := by
  cases result with
  | ok decoded after =>
    cases h
    exact ⟨decoded, rfl, rfl⟩
  | error error after => cases h

theorem eq_of_outcome_error {error : DecodeError}
    (h : carrier.outcome message result = .error error (left, after)) : left = message := by
  cases result with
  | ok decoded after => cases h
  | error error after =>
    cases h
    rfl

end Carrier

/-! ### Frames -/

/-- Why the payload of a frame is not decoded as a message of a kind: it is too long, or reading it
fails as it fails on any stream, or it counts too many items, which is reported under the kind's own
name. -/
inductive Frame.Refusal (frame : Frame) (kind : MessageKind) : DecodeError → Prop where
  | overLimit (h : 1800009 < frame.payload.length) :
    Refusal frame kind (.overLimit .messagePayload 1800009 frame.payload.length)
  | stream (cause : Stream.Error) : Refusal frame kind (.ofStream cause)
  | count (count : Nat) (h : 50000 < count) :
    Refusal frame kind (.tooManyItems (kind.name ++ "::decode") count 50000)

/-- The record of a payload that is longer than any inventory. -/
def Frame.longRecord (frame : Frame) : Log.Record :=
  ⟨.warn, .frames,
    s!"rejecting {frame.command} message: payload length {frame.payload.length} exceeds {1800009}"⟩

/-- What a frame comes to under the command of a kind: an inventory that its payload starts with, or
a reason why there is none. -/
def Frame.Comes (frame : Frame) (kind : MessageKind) :
    EStateM.Result DecodeError Log Inventory → Prop
  | .ok decoded _ => decoded.canonical = decoded ∧ ∃ rest, frame.payload = decoded.encoding ++ rest
  | .error error _ => frame.Refusal kind error

namespace Carrier
variable {M : Type} [Message M] (carrier : Carrier M) {message : M} {frame : Frame}
  {version : ProtocolVersion} {log : Log} (hcommand : frame.command = Message.command message)
include hcommand

/-- A payload that is longer than any inventory is not looked at. -/
theorem decodeInto_long (hl : 1800009 < frame.payload.length) :
    frame.decodeInto version (message, log) = carrier.outcome message
      (.error (.overLimit .messagePayload 1800009 frame.payload.length)
        (log ++ [frame.longRecord])) := by
  have hmax : (Message.maxPayloadLength message version).toNat = 1800009 := by
    rw [carrier.maxPayloadLength]
    rfl
  simp only [Frame.decodeInto, hmax]
  rw [if_neg (not_not_intro hcommand), if_pos hl]
  rfl

/-- Any other payload is read from its first byte. -/
theorem decodeInto_eq (hl : frame.payload.length ≤ 1800009) :
    frame.decodeInto version (message, log) = carrier.outcome message
      (match Inventory.decodeFor ((carrier.kind message).name ++ "::decode") version
          ⟨.ofBytes frame.payload, log⟩ with
        | .ok decoded after => .ok decoded after.log
        | .error error after => .error error after.log) := by
  rw [Frame.decodeInto_eq hcommand (by rw [carrier.maxPayloadLength]; exact hl), carrier.decode_eq]
  cases Inventory.decodeFor _ version ⟨.ofBytes frame.payload, log⟩ <;> rfl

end Carrier

/-- **What a frame comes to depends on the kind and on the payload alone**: it is the same for every
message of the kind, of whatever type and whatever it holds. -/
theorem Carrier.exists_decodeInto {frame : Frame} {kind : MessageKind}
    (hcommand : frame.command = kind.command) (version : ProtocolVersion) (log : Log) :
    ∃ result, frame.Comes kind result ∧
      ∀ {M : Type} [Message M] (carrier : Carrier M) (message : M), carrier.kind message = kind →
        frame.decodeInto version (message, log) = carrier.outcome message result := by
  have hown {M : Type} [Message M] (carrier : Carrier M) (message : M)
      (hkind : carrier.kind message = kind) : frame.command = Message.command message := by
    rw [carrier.command, hkind, hcommand]
  by_cases hl : 1800009 < frame.payload.length
  · refine ⟨.error (.overLimit .messagePayload 1800009 frame.payload.length)
      (log ++ [frame.longRecord]), Frame.Refusal.overLimit hl, ?_⟩
    intro M _ carrier message hkind
    exact carrier.decodeInto_long (hown carrier message hkind) hl
  have hl := Nat.le_of_not_lt hl
  cases hread : Inventory.decodeFor (kind.name ++ "::decode") version
    ⟨.ofBytes frame.payload, log⟩ with
  | ok decoded after =>
    obtain ⟨hcanonical, ⟨rest, hahead⟩, -⟩ := Inventory.eq_of_decodeFor _ _ hread
    refine ⟨.ok decoded after.log, ⟨hcanonical, rest, Decoder.eq_of_ahead_ofBytes hahead⟩, ?_⟩
    intro M _ carrier message hkind
    rw [carrier.decodeInto_eq (hown carrier message hkind) hl, hkind, hread]
  | error error after =>
    refine ⟨.error error after.log, ?_, ?_⟩
    · obtain ⟨cause, rfl⟩ | ⟨count, _, -, rfl, hmany, -⟩ := Inventory.decodeFor_error hread
      · exact Frame.Refusal.stream cause
      · exact Frame.Refusal.count count.toNat hmany
    · intro M _ carrier message hkind
      rw [carrier.decodeInto_eq (hown carrier message hkind) hl, hkind, hread]

end Gossip
