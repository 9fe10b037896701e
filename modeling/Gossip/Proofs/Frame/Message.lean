import Gossip.Proofs.Frame.Acceptance
import Gossip.Proofs.Stream.Writing

/-! From messages to frames, and back.

To a sink that takes everything a message is written as the frame of its payload (`forPayload`), and
that frame is valid wherever the payload is within the limits. Back from a frame, a message is
decoded if the command is its own, and the payload is no longer than it allows and decodes
(`decodeInto_ok`), and in no other case (`eq_of_decodeInto`). -/
namespace Gossip.Frame

/-! ### Writing -/

/-- The frame in which a payload goes out. -/
def forPayload (network : Network) (command : Command) (payload : Bytes) : Frame :=
  ⟨.forPayload network command payload, payload⟩

variable {network : Network} {limits : Limits} {command : Command} {payload : Bytes}

/-- A length that fits its field is the length of the payload. -/
theorem length_forPayload (h : payload.length < UInt32.size) :
    (Header.forPayload network command payload).length.toNat = payload.length := by
  have hmin : min payload.length (UInt32.size - 1) = payload.length :=
    Nat.min_eq_left (Nat.le_sub_one_of_lt h)
  rw [Header.forPayload, hmin]
  exact UInt32.toNat_ofNat_of_lt' h

theorem valid_forPayload (h : payload.length < UInt32.size)
    (hl : payload.length ≤ limits.maxPayloadBytes) :
    Valid network limits (forPayload network command payload) := by
  have hlength : (forPayload network command payload).header.length.toNat = payload.length :=
    length_forPayload h
  refine ⟨rfl, hlength.symm, ?_, rfl⟩
  rw [hlength]
  exact hl

/-- A valid frame is the one in which its payload goes out under its command. -/
theorem Valid.eq_forPayload {frame : Frame} (valid : Valid network limits frame) :
    frame = forPayload network frame.header.command frame.payload := by
  obtain ⟨⟨magic, command, length, checksum⟩, payload⟩ := frame
  have hmagic : magic = network.magic := valid.magic
  have hlength : payload.length = length.toNat := valid.length
  have hchecksum : Checksum.of payload = checksum := valid.checksum
  have hfits : payload.length < UInt32.size := by
    rw [hlength]
    exact length.toNat_lt
  have hfield : length = (Header.forPayload network command payload).length := by
    apply UInt32.toNat_inj.mp
    rw [length_forPayload hfits, hlength]
  clear valid hlength
  subst hmagic hchecksum hfield
  rfl

variable {M : Type} [Message M] {message : M} {version : ProtocolVersion} {outbound : Outbound}

theorem write_invalid_command (h : Command.ofText? (Message.command message) = none) :
    write message version network limits outbound =
      .error (.invalidCommand (Message.command message)) outbound := by
  simp only [write, h]

theorem write_no_payload {error : EncodeError}
    (hcommand : Command.ofText? (Message.command message) = some command)
    (h : Message.payload message version = .error error) :
    write message version network limits outbound = .error error outbound := by
  simp only [write, hcommand, h]

theorem write_over_limit (hcommand : Command.ofText? (Message.command message) = some command)
    (hpayload : Message.payload message version = .ok payload)
    (hl : limits.maxPayloadBytes < payload.length) :
    write message version network limits outbound =
      .error (.overLimit .payloadBytes limits.maxPayloadBytes payload.length) outbound := by
  simp only [write, hcommand, hpayload, if_pos hl]

/-- The fields that are written, one behind the other, are the frame. -/
theorem flatten_fields (network : Network) (command : Command) (payload : Bytes) :
    ((Header.forPayload network command payload).fields ++ [payload]).flatten =
      (forPayload network command payload).encode := by
  rw [List.flatten_append, List.flatten_singleton]
  rfl

/-- **A message is written as the frame of its payload.** -/
theorem write_unbounded (h : outbound.sink.Unbounded)
    (hcommand : Command.ofText? (Message.command message) = some command)
    (hpayload : Message.payload message version = .ok payload)
    (hl : payload.length ≤ limits.maxPayloadBytes) :
    ∃ log, write message version network limits outbound =
      .ok (forPayload network command payload).encode.length
        ⟨outbound.sink.grown (forPayload network command payload).encode, log⟩ := by
  have hwriter : Stream.Sink.Unbounded (Stream.Writer.sink ⟨outbound.sink, 0⟩) := h
  simp only [write, hcommand, hpayload, if_neg (Nat.not_lt_of_le hl),
    Encoder.fields_unbounded hwriter, flatten_fields, Nat.zero_add]
  exact ⟨_, rfl⟩

/-! ### Decoding -/

variable {frame : Frame} {decoded : M} {log : Log}

/-- A payload that passes both checks is decoded from its first byte to its last. -/
theorem decodeInto_eq (hcommand : frame.command = Message.command message)
    (hl : frame.payload.length ≤ (Message.maxPayloadLength message version).toNat) :
    frame.decodeInto version (message, log) =
      match Message.decode version (message, ⟨.ofBytes frame.payload, log⟩) with
      | .ok () (decoded, after) => .ok () (decoded, after.log)
      | .error error (left, after) => .error error (left, after.log) := by
  exact (if_neg (not_not_intro hcommand)).trans (if_neg (Nat.not_lt_of_le hl))

theorem decodeInto_ok {after : Inbound} (hcommand : frame.command = Message.command message)
    (hl : frame.payload.length ≤ (Message.maxPayloadLength message version).toNat)
    (hdecode : Message.decode version (message, ⟨.ofBytes frame.payload, log⟩) =
      .ok () (decoded, after)) :
    frame.decodeInto version (message, log) = .ok () (decoded, after.log) := by
  rw [decodeInto_eq hcommand hl, hdecode]

theorem eq_of_decodeInto {records : Log}
    (h : frame.decodeInto version (message, log) = .ok () (decoded, records)) :
    frame.command = Message.command message ∧ ∃ after,
      Message.decode version (message, ⟨.ofBytes frame.payload, log⟩) =
        .ok () (decoded, after) := by
  by_cases hcommand : frame.command ≠ Message.command message
  · simp only [decodeInto, if_pos hcommand] at h
    cases h
  by_cases hl : (Message.maxPayloadLength message version).toNat < frame.payload.length
  · simp only [decodeInto, if_neg hcommand, if_pos hl] at h
    cases h
  simp only [decodeInto, if_neg hcommand, if_neg hl] at h
  refine ⟨Decidable.not_not.mp hcommand, ?_⟩
  cases hdecode : Message.decode version (message, ⟨.ofBytes frame.payload, log⟩) with
  | ok value state =>
    rw [hdecode] at h
    cases h
    exact ⟨_, rfl⟩
  | error error state =>
    rw [hdecode] at h
    cases h

end Gossip.Frame
