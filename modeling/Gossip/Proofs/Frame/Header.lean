import Gossip.Frame.Header
import Gossip.Proofs.Frame.Command
import Gossip.Proofs.Frame.Decoding

/-! Reading headers.

A header is read back from its layout (`decode_front`), and whatever keeps a layout from being
whole is reported for the field where it shows: one lemma for each field that may be cut short, and
one for a field that holds no command. `shape` says that there are no other ways for a byte string
to start. -/
namespace Gossip

namespace Header
theorem encode_append (header : Header) (rest : Bytes) :
    header.encode ++ rest = LittleEndian.encode 4 header.magic.toNat ++
      (header.command.field.bytes ++ (LittleEndian.encode 4 header.length.toNat ++
        (header.checksum.bytes ++ rest))) := by
  simp [Header.encode, fields]

/-! ### Headers that are cut short -/

open Inbound (Ahead)
variable {start : Inbound} {count : Nat} {rest : Bytes}

theorem decode_magic_cut (h : Ahead start count rest) (hl : rest.length < 4) :
    decode (start.skip count) = .error (.cut 4 rest.length start.ending) start.drain := by
  unfold decode
  rw [Stream.bind_error (Decoder.u32_short h hl)]

variable {magic : UInt32}

theorem decode_command_cut (h : Ahead start count (LittleEndian.encode 4 magic.toNat ++ rest))
    (hl : rest.length < 12) :
    decode (start.skip count) = .error (.cut 12 rest.length start.ending) start.drain := by
  have hrest := h.next (LittleEndian.length_encode ..)
  unfold decode
  rw [Stream.bind_ok (Decoder.u32_front h), Stream.bind_error (Decoder.octets_short hrest hl)]

theorem decode_invalid_command {field : Octets 12}
    (h : Ahead start count (LittleEndian.encode 4 magic.toNat ++ (field.bytes ++ rest)))
    (hf : ¬ Command.IsField field.bytes) :
    decode (start.skip count) = .error (.invalidCommand field) (start.skip (count + 16)) := by
  have hfield := h.next (LittleEndian.length_encode ..)
  unfold decode
  rw [Stream.bind_ok (Decoder.u32_front h), Stream.bind_ok (Decoder.octets_front hfield),
    Command.ofField?_eq_none hf]
  rfl

variable {command : Command}

theorem decode_length_cut
    (h : Ahead start count (LittleEndian.encode 4 magic.toNat ++ (command.field.bytes ++ rest)))
    (hl : rest.length < 4) :
    decode (start.skip count) = .error (.cut 4 rest.length start.ending) start.drain := by
  have hfield := h.next (LittleEndian.length_encode ..)
  have hrest := hfield.next command.field.length_eq
  unfold decode
  rw [Stream.bind_ok (Decoder.u32_front h), Stream.bind_ok (Decoder.octets_front hfield),
    Command.ofField?_field]
  dsimp only
  rw [Stream.bind_error (Decoder.u32_short hrest hl)]

theorem decode_checksum_cut {length : UInt32}
    (h : Ahead start count (LittleEndian.encode 4 magic.toNat ++ (command.field.bytes ++
      (LittleEndian.encode 4 length.toNat ++ rest)))) (hl : rest.length < 4) :
    decode (start.skip count) = .error (.cut 4 rest.length start.ending) start.drain := by
  have hfield := h.next (LittleEndian.length_encode ..)
  have hlength := hfield.next command.field.length_eq
  have hrest := hlength.next (LittleEndian.length_encode ..)
  unfold decode
  rw [Stream.bind_ok (Decoder.u32_front h), Stream.bind_ok (Decoder.octets_front hfield),
    Command.ofField?_field]
  dsimp only
  rw [Stream.bind_ok (Decoder.u32_front hlength), Stream.bind_error (Decoder.octets_short hrest hl)]

/-! ### Whole headers -/

theorem decode_front {header : Header} (h : Ahead start count (header.encode ++ rest)) :
    decode (start.skip count) = .ok header (start.skip (count + size)) := by
  rw [encode_append] at h
  have hfield := h.next (LittleEndian.length_encode ..)
  have hlength := hfield.next header.command.field.length_eq
  have hchecksum := hlength.next (LittleEndian.length_encode ..)
  unfold decode
  rw [Stream.bind_ok (Decoder.u32_front h), Stream.bind_ok (Decoder.octets_front hfield),
    Command.ofField?_field]
  dsimp only
  rw [Stream.bind_ok (Decoder.u32_front hlength), Stream.bind_ok (Decoder.octets_front hchecksum)]
  rfl

/-! ### What a byte string starts with -/

/-- How far the layout of a header goes. -/
inductive Shape : Bytes → Prop where
  | noMagic {bytes : Bytes} : bytes.length < 4 → Shape bytes
  | noCommand (magic : UInt32) {rest : Bytes} : rest.length < 12 →
    Shape (LittleEndian.encode 4 magic.toNat ++ rest)
  | invalidCommand (magic : UInt32) (field : Octets 12) (rest : Bytes) :
    ¬ Command.IsField field.bytes →
    Shape (LittleEndian.encode 4 magic.toNat ++ (field.bytes ++ rest))
  | noLength (magic : UInt32) (command : Command) {rest : Bytes} : rest.length < 4 →
    Shape (LittleEndian.encode 4 magic.toNat ++ (command.field.bytes ++ rest))
  | noChecksum (magic : UInt32) (command : Command) (length : UInt32) {rest : Bytes} :
    rest.length < 4 →
    Shape (LittleEndian.encode 4 magic.toNat ++ (command.field.bytes ++
      (LittleEndian.encode 4 length.toNat ++ rest)))
  | whole (header : Header) (rest : Bytes) : Shape (header.encode ++ rest)

/-- Every byte string starts in one of these ways. -/
theorem shape (bytes : Bytes) : Shape bytes := by
  by_cases h : bytes.length < 4
  · exact .noMagic h
  obtain ⟨magic, rest, rfl⟩ := LittleEndian.exists_u32_front (Nat.le_of_not_lt h)
  by_cases h : rest.length < 12
  · exact .noCommand magic h
  obtain ⟨field, rest, rfl⟩ := Octets.exists_front (Nat.le_of_not_lt h)
  by_cases hf : ¬ Command.IsField field.bytes
  · exact .invalidCommand magic field rest hf
  obtain ⟨command, rfl⟩ := Command.exists_field (Decidable.not_not.mp hf)
  by_cases h : rest.length < 4
  · exact .noLength magic command h
  obtain ⟨length, rest, rfl⟩ := LittleEndian.exists_u32_front (Nat.le_of_not_lt h)
  by_cases h : rest.length < 4
  · exact .noChecksum magic command length h
  obtain ⟨checksum, rest, rfl⟩ := Octets.exists_front (Nat.le_of_not_lt h)
  have := Shape.whole ⟨magic, command, length, checksum⟩ rest
  rwa [encode_append] at this

end Header
end Gossip
