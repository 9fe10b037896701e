import Gossip.Frame.Basic
import Gossip.Proofs.Stream.Reading

/-! The read calls that a frame keeps.

Of the fields of a frame only the payload has a length that is up to the sender, and only its calls
are kept. Without them reading a frame is reading one field after the other (`Frame.read_eq`); and
they are the calls by which a byte string of the announced length is read, if the header is not
refused, and otherwise there are none (`Frame.callsMade_read`). -/
namespace Gossip
open Gossip.Stream (untraced callsMade)

namespace TracedDecoder
variable {α β : Type}

/-! ### Without the calls -/

theorem untraced_lift (decoder : Decoder α) :
    untraced (liftM decoder : TracedDecoder α) = decoder := by
  funext inbound
  simp only [untraced, liftM, monadLift, MonadLift.monadLift]
  cases decoder inbound <;> rfl

theorem untraced_bind (decoder : Decoder α) (next : α → TracedDecoder β) :
    untraced (liftM decoder >>= next) = decoder >>= fun value => untraced (next value) := by
  funext inbound
  simp only [untraced, liftM, monadLift, MonadLift.monadLift, bind, EStateM.bind]
  cases decoder inbound <;> rfl

theorem untraced_bind_lift (traced : TracedDecoder α) (next : α → Decoder β) :
    untraced (traced >>= fun value => liftM (next value)) = untraced traced >>= next := by
  funext inbound
  simp only [untraced, liftM, monadLift, MonadLift.monadLift, bind, EStateM.bind]
  cases traced ⟨inbound, []⟩ with
  | error error after => rfl
  | ok value after =>
    dsimp only
    cases next value after.state <;> rfl

theorem untraced_byteString (length : Nat) :
    untraced (Decoder.tracedByteString length) =
      Decoder.field (Stream.Reader.byteString length) := by
  funext inbound
  simp only [untraced, Decoder.tracedByteString, Decoder.field, Stream.Reader.byteString]
  cases Stream.Reader.tracedByteString length ⟨inbound.reader, []⟩ <;> rfl

/-! ### The calls -/

theorem callsMade_lift (decoder : Decoder α) (inbound : Inbound) :
    callsMade (liftM decoder : TracedDecoder α) inbound = [] := by
  simp only [callsMade, liftM, monadLift, MonadLift.monadLift]
  cases decoder inbound <;> rfl

theorem callsMade_bind (decoder : Decoder α) (next : α → TracedDecoder β) (inbound : Inbound) :
    callsMade (liftM decoder >>= next) inbound =
      match decoder inbound with
      | .ok value after => callsMade (next value) after
      | .error _ _ => [] := by
  simp only [callsMade, liftM, monadLift, MonadLift.monadLift, bind, EStateM.bind]
  cases decoder inbound <;> rfl

theorem callsMade_bind_lift (traced : TracedDecoder α) (next : α → Decoder β) (inbound : Inbound) :
    callsMade (traced >>= fun value => liftM (next value)) inbound = callsMade traced inbound := by
  simp only [callsMade, liftM, monadLift, MonadLift.monadLift, bind, EStateM.bind]
  cases traced ⟨inbound, []⟩ with
  | error error after => rfl
  | ok value after =>
    dsimp only
    cases next value after.state <;> rfl

theorem callsMade_byteString (length : Nat) (inbound : Inbound) :
    callsMade (Decoder.tracedByteString length) inbound =
      callsMade (Stream.Reader.tracedByteString length) inbound.reader := by
  simp only [callsMade, Decoder.tracedByteString]
  cases Stream.Reader.tracedByteString length ⟨inbound.reader, []⟩ <;> rfl

end TracedDecoder

namespace Frame
open TracedDecoder

/-- Reading a frame, field after field. -/
theorem read_eq (network : Network) (limits : Limits) : read network limits = (do
    let header ← Header.decode
    let length := header.length.toNat
    if header.magic ≠ network.magic then
      let magic := Text.Numeral.upperHex 8 header.magic.toNat
      Decoder.reject .frames s!"rejecting message with magic 0x{magic} on {network.name}"
        (.wrongMagic header.magic network.magic)
    else if limits.maxPayloadBytes < length then
      Decoder.reject .frames (s!"rejecting {header.command.text} message: " ++
          s!"payload length {length} exceeds {limits.maxPayloadBytes}")
        (.overLimit .payloadBytes limits.maxPayloadBytes length)
    else do
      let payload ← Decoder.field (Stream.Reader.byteString length)
      verify header payload) := by
  rw [read, tracedRead, untraced_bind]
  congr 1
  funext header
  dsimp only
  split
  · exact untraced_lift _
  split
  · exact untraced_lift _
  · rw [untraced_bind_lift, untraced_byteString]

/-- The payload is read if the header is not refused. -/
theorem callsMade_read (network : Network) (limits : Limits) (inbound : Inbound) :
    callsMade (tracedRead network limits) inbound =
      match Header.decode inbound with
      | .error _ _ => []
      | .ok header after =>
        if header.magic = network.magic ∧ header.length.toNat ≤ limits.maxPayloadBytes then
          callsMade (Stream.Reader.tracedByteString header.length.toNat) after.reader
        else [] := by
  rw [tracedRead, callsMade_bind]
  cases Header.decode inbound with
  | error error after => rfl
  | ok header after =>
    dsimp only
    by_cases hm : header.magic ≠ network.magic
    · rw [if_pos hm, if_neg fun h => hm h.1]
      exact callsMade_lift _ _
    by_cases hl : limits.maxPayloadBytes < header.length.toNat
    · rw [if_neg hm, if_pos hl, if_neg fun h => Nat.not_le_of_lt hl h.2]
      exact callsMade_lift _ _
    · rw [if_neg hm, if_neg hl, if_pos ⟨Decidable.not_not.mp hm, Nat.le_of_not_lt hl⟩,
        callsMade_bind_lift, callsMade_byteString]

end Frame
end Gossip
