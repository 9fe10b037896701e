import Gossip.Proofs.Inventory.Bound
import Gossip.Proofs.Stream.Passage

/-! Encoding an inventory to any sink.

Nothing is gathered before it is sent: each field of an inventory goes to the sink by itself, so a
sink that fails may have taken a front of the encoding that ends anywhere. `encode_to_any_sink` says
where it ends, for an inventory alone and for one in a message. Every field has at least one byte,
so a failure that is met is met before the last byte is taken. -/
namespace Gossip
open Gossip.Stream (Fault Intake Laden Sink WriteEvent Writer)

/-! ### The fields -/

theorem CompactSize.laden_fields (value : UInt64) : Laden (fields value) := by
  unfold fields
  split
  · simp [Laden]
  split
  · simp [Laden, LittleEndian.encode]
  split <;> simp [Laden, LittleEndian.encode]

theorem Item.laden_fields (item : Item) : Laden item.fields := by
  have hhash : item.hash.bytes ≠ [] :=
    List.ne_nil_of_length_eq_add_one (n := 31) item.hash.octets.length_eq
  simp [Laden, fields, LittleEndian.encode, hhash]

theorem Inventory.laden_fields (inventory : Inventory) : Laden inventory.fields := by
  intro field hfield
  rcases List.mem_append.mp hfield with hcount | hitems
  · exact CompactSize.laden_fields _ field hcount
  · obtain ⟨item, -, hitem⟩ := List.mem_flatMap.mp hitems
    exact item.laden_fields field hitem

/-! ### What is seen of encoding -/

/-- What encoding comes to if this becomes of the bytes. -/
def Encoder.verdict (offer : Intake.Offer) : Except EncodeError Unit :=
  match offer.failure with
  | none => .ok ()
  | some fault => .error (.transport fault)

theorem Encoder.seen_fields (list : List Bytes) (writer : Writer) :
    seen (·.sink.taken) (fields list writer) =
      (verdict (writer.sink.intake.offerAll list),
        writer.sink.taken ++ (writer.sink.intake.offerAll list).taken) := by
  have hends := Writer.fields_ends list writer
  simp only [fields]
  generalize Writer.fields list writer = result at hends
  cases hends with
  | all hnone => simp only [seen, Sink.taken_after, verdict, hnone]
  | part hsome => simp only [seen, Sink.taken_after, verdict, hsome, EncodeError.ofStream]

namespace Holder

/-- What encoding comes to, and what the sink has taken then. -/
def sent (version : ProtocolVersion) (writer : Writer) (holder : Holder) :
    Except EncodeError Unit × Bytes :=
  seen (·.sink.taken) (holder.encode version writer)

theorem sent_eq (version : ProtocolVersion) (writer : Writer) (holder : Holder) :
    holder.sent version writer =
      (Encoder.verdict (writer.sink.intake.offerAll holder.inventory.fields),
        writer.sink.taken ++ (writer.sink.intake.offerAll holder.inventory.fields).taken) := by
  rw [sent, encode_eq holder.inventory.size_le, Encoder.seen_fields]

/-- What is seen of encoding to a sink that has taken some bytes before and meets these events. -/
inductive Sends (events : List WriteEvent) (before : Bytes) (inventory : Inventory) :
    Except EncodeError Unit × Bytes → Prop where
  /-- No write call fails, or none does before the last byte is taken. -/
  | whole : events.findSome? WriteEvent.failure? = none ∨
      Intake.unsent events inventory.fields = [] →
    Sends events before inventory (.ok (), before ++ inventory.encoding)
  /-- The first failure is met. All that gets through before it has been taken, and this is not the
  whole encoding. -/
  | cut {taken missing : Bytes} {fault : Fault} :
    events.findSome? WriteEvent.failure? = some fault → fault.kind ≠ .interrupted →
    (Intake.unsent events inventory.fields).flatten = missing → missing ≠ [] →
    inventory.encoding = taken ++ missing →
    Sends events before inventory (.error (.transport fault), before ++ taken)

variable (version : ProtocolVersion) (holder : Holder) {writer : Writer}

theorem sent_script {events : List WriteEvent} (h : writer.sink.intake = .script events) :
    Sends events writer.sink.taken holder.inventory (holder.sent version writer) := by
  have hladen := holder.inventory.laden_fields
  have hpasses := Intake.offerAll_passes events hladen
  rw [sent_eq, h]
  generalize Intake.offerAll _ _ = offer at hpasses
  cases hpasses with
  | whole hall => exact .whole hall
  | cut hfault hne hbytes =>
    have hahead : (Intake.script events).failure? = some _ := hfault
    exact .cut hfault (Intake.kind_of_failure? hahead) rfl
      ((Intake.laden_unsent hladen events).flatten_ne_nil hne) hbytes

theorem sent_calm (writer : Writer) :
    holder.sent version {writer with sink := writer.sink.calm} = holder.sent version writer := by
  have hcalm := Encoder.respects_fields holder.inventory.fields writer _ rfl
  rw [sent, sent, encode_eq holder.inventory.size_le]
  refine (hcalm.seen_eq ?_).symm
  rintro after _ rfl
  rfl

theorem sent_room (room : Nat) :
    holder.sent version ⟨.bounded room, 0⟩ =
      if holder.inventory.encodedLength ≤ room then (.ok (), holder.inventory.encoding)
      else (.error (.transport .outOfRoom), holder.inventory.encoding.take room) := by
  have hroom := Intake.offerAll_room room holder.inventory.fields
  rw [← Inventory.encoding, Inventory.length_encoding] at hroom
  rw [sent_eq]
  by_cases hfits : holder.inventory.encodedLength ≤ room
  · rw [if_pos hfits] at hroom ⊢
    simp only [Sink.bounded, hroom]
    rfl
  · rw [if_neg hfits] at hroom ⊢
    simp only [Sink.bounded, hroom]
    rfl

/-- **Encoding to any sink.** What reaches a sink is the encoding as it is in memory, or the front
of it that gets through before the first failure. Short writes and interrupted calls are no
failures, and the latter make no difference to anything. A sink with a fixed room takes what
fits. -/
theorem encode_to_any_sink (holder : Holder) (version : ProtocolVersion) :
    holder.sent version .inMemory = (.ok (), holder.inventory.encoding) ∧
    (∀ writer events, writer.sink.intake = .script events →
      Sends events writer.sink.taken holder.inventory (holder.sent version writer) ∧
      ((∀ event ∈ events, event.failure? = none) → holder.sent version writer =
        (.ok (), writer.sink.taken ++ holder.inventory.encoding))) ∧
    (∀ writer, holder.sent version {writer with sink := writer.sink.calm} =
      holder.sent version writer) ∧
    ∀ room, holder.sent version ⟨.bounded room, 0⟩ =
      if holder.inventory.encodedLength ≤ room then (.ok (), holder.inventory.encoding)
      else (.error (.transport .outOfRoom), holder.inventory.encoding.take room) := by
  refine ⟨?_, ?_, holder.sent_calm version, holder.sent_room version⟩
  · rw [sent_eq]
    simp only [Writer.inMemory, Sink.unbounded, Intake.offerAll_all]
    rfl
  · intro writer events h
    have hsends := holder.sent_script version h
    refine ⟨hsends, fun hnone => ?_⟩
    generalize holder.sent version writer = result at hsends
    cases hsends with
    | whole _ => rfl
    | cut hfault _ _ _ _ =>
      rw [List.findSome?_eq_none_iff.mpr hnone] at hfault
      cases hfault

/-- The count and three bytes of the tag get through. -/
example : sent .current ⟨{ intake := .script [.accept 9, .accept 3, .accept 0] }, 0⟩
    (.alone ⟨#[⟨.block, default⟩], by decide⟩) =
      (.error (.transport .outOfRoom), [1, 2, 0, 0]) := rfl

end Holder
end Gossip
