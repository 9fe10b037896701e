import Gossip.Proofs.Inventory.Carrier
import Gossip.Proofs.Inventory.Message
import Gossip.Proofs.Respects

/-! Decoding into a message replaces all of it or nothing.

A message that is decoded into has been something before. If decoding fails, from a stream or from a
frame and wherever it fails, the message still is what it was. If it succeeds, its inventory is the
one that the bytes read are read as (`Inventory.ofBytes?`), and nothing of the old one is left
(`Replaces`). Over any number of calls a message therefore has the inventory of the last one that
succeeded (`Carrier.run_eq`). -/
namespace Gossip

/-! ### What has been read -/

/-- The inventory that some bytes are read as, if it takes all of them. -/
def Inventory.ofBytes? (bytes : Bytes) : Option Inventory :=
  match decode .current ⟨.ofBytes bytes, []⟩ with
  | .ok decoded after => if after.reader.bytesRead = bytes.length then some decoded else none
  | .error _ _ => none

/-- Between two states of a stream these bytes have been read, and no others. -/
structure Inbound.Took (before after : Inbound) (bytes : Bytes) : Prop where
  bytesRead : after.reader.bytesRead = before.reader.bytesRead + bytes.length
  source : before.reader.source.bytes = bytes ++ after.reader.source.bytes

theorem Inbound.took_front {inbound : Inbound} {front rest : Bytes}
    (h : Ahead inbound 0 (front ++ rest)) : inbound.Took (inbound.skip front.length) front := by
  have harriving := h.arriving_skip
  rw [Stream.Reader.skip_zero] at harriving
  have harriving : inbound.reader.source.arriving = front ++ rest := harriving
  have hl : front.length ≤ inbound.reader.source.arriving.length := by
    rw [harriving, List.length_append]
    exact Nat.le_add_right ..
  refine ⟨rfl, ?_⟩
  show _ = front ++ (inbound.reader.source.skip front.length).bytes
  rw [Stream.Source.bytes_skip _ _ hl, Stream.Source.bytes_eq, harriving, List.append_assoc,
    List.drop_left]

namespace Inventory
variable {context : String} {version : ProtocolVersion} {inbound after : Inbound}
  {decoded : Inventory}

theorem ofBytes?_encoding (h : decoded.canonical = decoded) :
    ofBytes? decoded.encoding = some decoded := by
  have hahead := Decoder.ahead_ofBytes decoded.encoding []
  rw [← List.append_nil decoded.encoding] at hahead
  have hread := decodeFor_front "InventoryList::decode" .current hahead
  rw [Inbound.skip_zero, List.append_nil, h] at hread
  simp only [ofBytes?, decode, hread]
  refine if_pos ?_
  show 0 + (0 + decoded.encodedLength) = decoded.encoding.length
  rw [length_encoding, Nat.zero_add, Nat.zero_add]

/-- A decoded inventory is the one that the bytes read are read as. -/
theorem took_of_decodeFor (h : decodeFor context version inbound = .ok decoded after) :
    ∃ bytes, inbound.Took after bytes ∧ ofBytes? bytes = some decoded := by
  obtain ⟨hcanonical, ⟨rest, hahead⟩, rfl⟩ := eq_of_decodeFor _ _ h
  rw [← length_encoding]
  exact ⟨decoded.encoding, Inbound.took_front hahead, ofBytes?_encoding hcanonical⟩

/-- Nobody on whose behalf an inventory is decoded makes a difference to it. -/
theorem decodeFor_other (h : decodeFor context version inbound = .ok decoded after)
    (other : String) : decodeFor other version inbound = .ok decoded after := by
  obtain ⟨hcanonical, ⟨rest, hahead⟩, rfl⟩ := eq_of_decodeFor _ _ h
  have hread := decodeFor_front other version hahead
  rw [Inbound.skip_zero, Nat.zero_add, hcanonical] at hread
  exact hread

end Inventory

/-! ### One call -/

/-- What a way of decoding makes of messages. It decodes into those that it `fits`, and of the
states that it leaves behind, `reads` tells which bytes have been read. -/
structure Replaces {M σ : Type} [Message M] (kind : M → MessageKind) (inventory : M → Inventory)
    (fits : M → Prop) (reads : σ → Bytes → Prop)
    (decode : M → EStateM.Result DecodeError (M × σ) Unit) : Prop where
  /-- A message that is not decoded into is what it was. -/
  error : ∀ {message left after error}, decode message = .error error (left, after) → left = message
  /-- A message that is decoded into keeps its kind, and has the inventory of the bytes read. -/
  ok : ∀ {message left after}, decode message = .ok () (left, after) → fits message ∧
    kind left = kind message ∧ Message.command left = Message.command message ∧
    ∃ bytes, reads after bytes ∧ Inventory.ofBytes? bytes = some (inventory left)
  /-- It would be the same if the message had been another. -/
  other : ∀ {message left after}, decode message = .ok () (left, after) → ∀ other, fits other →
    ∃ left', decode other = .ok () (left', after) ∧ inventory left' = inventory left

namespace Carrier
variable {M : Type} [Message M] (carrier : Carrier M)

theorem command_with (message : M) (other : Inventory) :
    Message.command (carrier.withInventory message other) = Message.command message := by
  rw [carrier.command, carrier.command, carrier.kind_with]

theorem replaces_stream (version : ProtocolVersion) (inbound : Inbound) :
    Replaces carrier.kind carrier.inventory (fun _ => True) inbound.Took
      (fun message => Message.decode version (message, inbound)) where
  error h := by
    rw [carrier.decode_eq] at h
    exact carrier.eq_of_outcome_error h
  ok h := by
    rw [carrier.decode_eq] at h
    obtain ⟨decoded, hread, rfl⟩ := carrier.eq_of_outcome_ok h
    rw [carrier.kind_with, carrier.command_with, carrier.inventory_with]
    exact ⟨trivial, rfl, rfl, Inventory.took_of_decodeFor hread⟩
  other h other _ := by
    rw [carrier.decode_eq] at h
    obtain ⟨decoded, hread, rfl⟩ := carrier.eq_of_outcome_ok h
    refine ⟨_, carrier.decode_ok (Inventory.decodeFor_other hread _), ?_⟩
    rw [carrier.inventory_with, carrier.inventory_with]

/-- A frame comes to the same for all messages of a kind, also if it is not for them. -/
theorem exists_result (kind : MessageKind) (frame : Frame) (version : ProtocolVersion) (log : Log) :
    ∃ result, ∀ {M : Type} [Message M] (carrier : Carrier M) (message : M),
      carrier.kind message = kind →
        frame.decodeInto version (message, log) = carrier.outcome message result := by
  by_cases hcommand : frame.command = kind.command
  · obtain ⟨result, -, hinto⟩ := exists_decodeInto hcommand version log
    exact ⟨result, hinto⟩
  · refine ⟨.error (.commandMismatch kind.command frame.command) log, ?_⟩
    intro M _ carrier message hkind
    have hown : Message.command message = kind.command := by rw [carrier.command, hkind]
    rw [Frame.decodeInto, hown]
    exact if_pos hcommand

theorem replaces_frame (version : ProtocolVersion) (frame : Frame) (log : Log) :
    Replaces carrier.kind carrier.inventory (fun message => frame.command = Message.command message)
      (fun _ bytes => ∃ rest, frame.payload = bytes ++ rest)
      (fun message => frame.decodeInto version (message, log)) where
  error {message _ _ _} h := by
    obtain ⟨result, hinto⟩ := exists_result (carrier.kind message) frame version log
    rw [hinto carrier message rfl] at h
    exact carrier.eq_of_outcome_error h
  ok {message _ _} h := by
    obtain ⟨hown, -⟩ := Frame.eq_of_decodeInto h
    have hcommand := hown.trans (carrier.command message)
    obtain ⟨result, hcomes, hinto⟩ := exists_decodeInto hcommand version log
    rw [hinto carrier message rfl] at h
    obtain ⟨decoded, rfl, rfl⟩ := carrier.eq_of_outcome_ok h
    obtain ⟨hcanonical, hpayload⟩ := hcomes
    rw [carrier.kind_with, carrier.command_with, carrier.inventory_with]
    exact ⟨hown, rfl, rfl, decoded.encoding, hpayload, Inventory.ofBytes?_encoding hcanonical⟩
  other {message _ after} h other hother := by
    obtain ⟨hown, -⟩ := Frame.eq_of_decodeInto h
    rw [carrier.command] at hown hother
    obtain ⟨result, -, hinto⟩ := exists_decodeInto hown version log
    have hkind := MessageKind.ofCommand?_command (carrier.kind other)
    rw [← hother, hown, MessageKind.ofCommand?_command] at hkind
    rw [hinto carrier message rfl] at h
    obtain ⟨decoded, rfl, rfl⟩ := carrier.eq_of_outcome_ok h
    refine ⟨_, hinto carrier other (Option.some.inj hkind).symm, ?_⟩
    rw [carrier.inventory_with, carrier.inventory_with]

end Carrier

/-! ### One call after the other -/

/-- A call that decodes into a message. -/
inductive DecodeCall where
  | ofStream (version : ProtocolVersion) (inbound : Inbound)
  | ofFrame (version : ProtocolVersion) (frame : Frame) (log : Log)

namespace DecodeCall

/-- The result of a call, and what it leaves of the message. -/
def make {M : Type} [Message M] (message : M) : DecodeCall → Except DecodeError Unit × M
  | ofStream version inbound => seen Prod.fst (Message.decode version (message, inbound))
  | ofFrame version frame log => seen Prod.fst (frame.decodeInto version (message, log))

/-- What is left of a message by calls, one after the other. -/
def run {M : Type} [Message M] (message : M) : List DecodeCall → M
  | [] => message
  | call :: calls => run (call.make message).2 calls

/-- The inventory that a call gives to an empty message of a kind, if it succeeds. -/
def inventory? (kind : MessageKind) (call : DecodeCall) : Option Inventory :=
  match call.make (.empty : InventoryOf kind) with
  | (.ok (), message) => some message.inventory
  | (.error _, _) => none

end DecodeCall

namespace Carrier
variable {M : Type} [Message M] (carrier : Carrier M)

/-- What a call makes of a message if it comes to this. -/
def made (message : M) : Except DecodeError Inventory → Except DecodeError Unit × M
  | .ok decoded => (.ok (), carrier.withInventory message decoded)
  | .error error => (.error error, message)

theorem seen_outcome {σ : Type} (message : M) (result : EStateM.Result DecodeError σ Inventory) :
    seen Prod.fst (carrier.outcome message result) = carrier.made message (seen id result).1 := by
  cases result <;> rfl

/-- A call comes to the same for all messages of a kind. -/
theorem exists_make (kind : MessageKind) (call : DecodeCall) :
    ∃ result, ∀ {M : Type} [Message M] (carrier : Carrier M) (message : M),
      carrier.kind message = kind → call.make message = carrier.made message result := by
  cases call with
  | ofStream version inbound =>
    refine ⟨(seen id (Inventory.decodeFor (kind.name ++ "::decode") version inbound)).1, ?_⟩
    rintro M _ carrier message rfl
    rw [← seen_outcome, ← carrier.decode_eq]
    rfl
  | ofFrame version frame log =>
    obtain ⟨result, hinto⟩ := exists_result kind frame version log
    refine ⟨(seen id result).1, ?_⟩
    intro M _ carrier message hkind
    rw [← seen_outcome, ← hinto carrier message hkind]
    rfl

/-- The inventory that a call gives to an empty message it gives to every message of the kind. If it
gives none it changes nothing. -/
theorem make_eq (message : M) (call : DecodeCall) :
    match call.inventory? (carrier.kind message) with
    | some decoded => call.make message = (.ok (), carrier.withInventory message decoded)
    | none => ∃ error, call.make message = (.error error, message) := by
  obtain ⟨result, hmake⟩ := exists_make (carrier.kind message) call
  rw [DecodeCall.inventory?, hmake (ofKind _) .empty rfl, hmake carrier message rfl]
  cases result with
  | ok decoded => rfl
  | error error => exact ⟨error, rfl⟩

/-- By induction on the calls: each that succeeds makes those before it forgotten. -/
theorem run_eq (message : M) (calls : List DecodeCall) :
    carrier.kind (DecodeCall.run message calls) = carrier.kind message ∧
    carrier.inventory (DecodeCall.run message calls) =
      (calls.filterMap (DecodeCall.inventory? (carrier.kind message))).getLast?.getD
        (carrier.inventory message) := by
  induction calls generalizing message with
  | nil => exact ⟨rfl, rfl⟩
  | cons call calls ih =>
    have hmake := carrier.make_eq message call
    cases hgives : call.inventory? (carrier.kind message) with
    | none =>
      rw [hgives] at hmake
      obtain ⟨error, hmake⟩ := hmake
      rw [DecodeCall.run, hmake, List.filterMap_cons_none hgives]
      exact ih message
    | some decoded =>
      rw [hgives] at hmake
      obtain ⟨hkind, hinventory⟩ := ih (carrier.withInventory message decoded)
      rw [DecodeCall.run, show call.make message = _ from hmake, List.filterMap_cons_some hgives,
        hkind, hinventory, carrier.kind_with, carrier.inventory_with, List.getLast?_cons]
      exact ⟨rfl, rfl⟩

end Carrier

/-! ### Messages -/

/-- Decoding into messages of a type replaces their inventory whole or leaves them as they are. -/
structure AllOrNothing (M : Type) [Message M] (kind : M → MessageKind) (inventory : M → Inventory) :
    Prop where
  stream (version : ProtocolVersion) (inbound : Inbound) :
    Replaces kind inventory (fun _ => True) inbound.Took
      (fun message => Message.decode version (message, inbound))
  frame (version : ProtocolVersion) (frame : Frame) (log : Log) :
    Replaces kind inventory (fun message => frame.command = Message.command message)
      (fun _ bytes => ∃ rest, frame.payload = bytes ++ rest)
      (fun message => frame.decodeInto version (message, log))
  /-- What a call gives to a message depends on its kind and on nothing else. -/
  call (message : M) (call : DecodeCall) (decoded : Inventory) :
    call.inventory? (kind message) = some decoded ↔
      (call.make message).1 = .ok () ∧ inventory (call.make message).2 = decoded
  /-- After any calls a message has what the last that succeeded gave it, or what it had before. -/
  run (message : M) (calls : List DecodeCall) :
    kind (DecodeCall.run message calls) = kind message ∧
    inventory (DecodeCall.run message calls) =
      (calls.filterMap (DecodeCall.inventory? (kind message))).getLast?.getD (inventory message)

theorem Carrier.allOrNothing {M : Type} [Message M] (carrier : Carrier M) :
    AllOrNothing M carrier.kind carrier.inventory where
  stream := carrier.replaces_stream
  frame := carrier.replaces_frame
  call message call decoded := by
    have hmake := carrier.make_eq message call
    cases hgives : call.inventory? (carrier.kind message) with
    | none =>
      rw [hgives] at hmake
      obtain ⟨error, hmake⟩ := hmake
      simp [hmake]
    | some given =>
      rw [hgives] at hmake
      simp [show call.make message = _ from hmake, carrier.inventory_with]
  run := carrier.run_eq

/-- **Decoding is all or nothing**, for messages of one kind and for those of any kind. -/
theorem InventoryMessage.all_or_nothing :
    (∀ kind, AllOrNothing (InventoryOf kind) (fun _ => kind) InventoryOf.inventory) ∧
    AllOrNothing InventoryMessage kind inventory :=
  ⟨fun kind => (Carrier.ofKind kind).allOrNothing, Carrier.ofAnyKind.allOrNothing⟩

end Gossip
