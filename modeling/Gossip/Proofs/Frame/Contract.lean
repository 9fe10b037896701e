import Gossip.Proofs.Frame.Message

/-! What framing promises to every message.

Of a message nothing is known but the contract: its command, its bound, and that encoding it gives
some byte string. `framing` says when such a message is written: its command is a name, and the byte
string is within the bound and within the limits. Whatever is written then comes back (`Carries`):
every reader whose limits admit the payload reads the frame, and every message with the same command
and bound is handed exactly the byte string to decode. -/
namespace Gossip

namespace Message
variable {M : Type} [Message M] {message : M} {version : ProtocolVersion} {bytes : Bytes}

/-- Encoding the message gives these bytes. -/
def Encodes (message : M) (version : ProtocolVersion) (bytes : Bytes) : Prop :=
  ∃ writer, encode message version .inMemory = .ok () writer ∧ writer.sink.taken = bytes

/-- Only the message's own bound stands between its bytes and its payload. -/
theorem payload_of_encodes (h : Encodes message version bytes) :
    payload message version =
      let max := (maxPayloadLength message version).toNat
      if max < bytes.length then .error (.overLimit .messagePayload max bytes.length)
      else .ok bytes := by
  obtain ⟨writer, hencode, htaken⟩ := h
  simp only [payload, hencode, htaken]

end Message

namespace Frame

/-- A frame carries the bytes of a message: it is read wherever its payload is within the limits,
and decoded into every message that goes by the same command and bound. -/
structure Carries {M : Type} [Message M] (frame : Frame) (message : M) (version : ProtocolVersion)
    (network : Network) (bytes : Bytes) : Prop where
  payload : frame.payload = bytes
  command : frame.command = Message.command message
  /-- The length of the payload is never cut down to fit its field. -/
  length : frame.header.length.toNat = bytes.length
  read : ∀ (suffix : Bytes) (limits : Limits), bytes.length ≤ limits.maxPayloadBytes →
    (Frame.read network limits).Yields (frame.encode ++ suffix) (.ok frame) frame.encode.length
  decode : ∀ {N : Type} [Message N] (other : N) (version' : ProtocolVersion) (log : Log),
    Message.command other = Message.command message →
    Message.maxPayloadLength other version' = Message.maxPayloadLength message version →
    frame.decodeInto version' (other, log) =
      match Message.decode version' (other, ⟨.ofBytes bytes, log⟩) with
      | .ok () (decoded, after) => .ok () (decoded, after.log)
      | .error error (left, after) => .error error (left, after.log)

variable {M : Type} [Message M] {message : M} {version : ProtocolVersion} {bytes : Bytes}
  {network : Network} {limits : Limits} {command : Command}

theorem carries_forPayload (hcommand : command.text = Message.command message)
    (hl : bytes.length ≤ (Message.maxPayloadLength message version).toNat) :
    (forPayload network command bytes).Carries message version network bytes where
  payload := rfl
  command := hcommand
  length := length_forPayload (Nat.lt_of_le_of_lt hl (UInt32.toNat_lt _))
  read suffix limits hlimit :=
    yields_front (valid_forPayload (Nat.lt_of_le_of_lt hl (UInt32.toNat_lt _)) hlimit) suffix
  decode other version' log hother hmax := by
    apply decodeInto_eq
    · exact hcommand.trans hother.symm
    · rw [hmax]
      exact hl

/-- A message that fails one of the three checks is not written. -/
theorem write_refused (hbytes : Message.Encodes message version bytes) (network : Network)
    (outbound : Outbound) (h : ¬ (Command.IsName (Message.command message) ∧
      bytes.length ≤ (Message.maxPayloadLength message version).toNat ∧
      bytes.length ≤ limits.maxPayloadBytes)) :
    ∃ error, write message version network limits outbound = .error error outbound := by
  by_cases hname : Command.IsName (Message.command message)
  · obtain ⟨command, hcommand, -⟩ := Command.exists_ofText? hname
    by_cases hmax : bytes.length ≤ (Message.maxPayloadLength message version).toNat
    · have hpayload : Message.payload message version = .ok bytes :=
        (Message.payload_of_encodes hbytes).trans (if_neg (Nat.not_lt_of_le hmax))
      have hlimit : limits.maxPayloadBytes < bytes.length :=
        Nat.lt_of_not_le fun hle => h ⟨hname, hmax, hle⟩
      exact ⟨_, write_over_limit hcommand hpayload hlimit⟩
    · have hpayload := Message.payload_of_encodes hbytes
      rw [if_pos (Nat.lt_of_not_le hmax)] at hpayload
      exact ⟨_, write_no_payload hcommand hpayload⟩
  · exact ⟨_, write_invalid_command (Command.ofText?_eq_none hname)⟩

/-- **What framing promises to every message.** A message is written if and only if its command is a
name and its bytes are within its own bound and the limits; then one frame goes out that carries
it. -/
theorem framing (hbytes : Message.Encodes message version bytes) (network : Network)
    (limits : Limits) (outbound : Outbound) (h : outbound.sink.Unbounded) :
    ((∃ count after, write message version network limits outbound = .ok count after) ↔
      Command.IsName (Message.command message) ∧
        bytes.length ≤ (Message.maxPayloadLength message version).toNat ∧
        bytes.length ≤ limits.maxPayloadBytes) ∧
    ∀ count after, write message version network limits outbound = .ok count after →
      count = 24 + bytes.length ∧
      ∃ frame : Frame, after.sink.taken = outbound.sink.taken ++ frame.encode ∧
        frame.Carries message version network bytes := by
  by_cases hadmitted : Command.IsName (Message.command message) ∧
    bytes.length ≤ (Message.maxPayloadLength message version).toNat ∧
    bytes.length ≤ limits.maxPayloadBytes
  · obtain ⟨hname, hmax, hlimit⟩ := hadmitted
    obtain ⟨command, hcommand, htext⟩ := Command.exists_ofText? hname
    have hpayload : Message.payload message version = .ok bytes :=
      (Message.payload_of_encodes hbytes).trans (if_neg (Nat.not_lt_of_le hmax))
    obtain ⟨log, hwrite⟩ : ∃ log, write message version network limits outbound =
        .ok (forPayload network command bytes).encode.length
          ⟨outbound.sink.grown (forPayload network command bytes).encode, log⟩ :=
      write_unbounded h hcommand hpayload hlimit
    constructor
    · exact ⟨fun _ => ⟨hname, hmax, hlimit⟩, fun _ => ⟨_, _, hwrite⟩⟩
    · intro count after hrun
      rw [hwrite] at hrun
      cases hrun
      exact ⟨length_encode _, _, Stream.Sink.taken_grown .., carries_forPayload htext hmax⟩
  · obtain ⟨error, hwrite⟩ := write_refused hbytes network outbound hadmitted
    rw [hwrite]
    constructor
    · refine ⟨?_, fun hall => absurd hall hadmitted⟩
      rintro ⟨count, after, hrun⟩
      cases hrun
    · intro count after hrun
      cases hrun

end Frame

/-! ### A message of its own -/

/-- A message of eight bytes. -/
structure Ping where
  nonce : UInt64

namespace Ping

instance : Message Ping where
  command _ := "ping"
  maxPayloadLength _ _ := 8
  encode ping _ := Encoder.fields [LittleEndian.encode 8 ping.nonce.toNat]
  decode _ := fun (ping, inbound) =>
    match Decoder.field Stream.Reader.u64 inbound with
    | .ok nonce inbound => .ok () (⟨nonce⟩, inbound)
    | .error error inbound => .error error (ping, inbound)
  diagnostic ping := Text.Diagnostic.record "Ping" [("nonce", toString ping.nonce)]

theorem encodes (ping : Ping) (version : ProtocolVersion) :
    Message.Encodes ping version (LittleEndian.encode 8 ping.nonce.toNat) := by
  refine ⟨_, Encoder.fields_unbounded Stream.Sink.unbounded_unbounded _, ?_⟩
  rw [Stream.Sink.taken_grown, List.flatten_singleton]
  rfl

end Ping

/-- A ping goes out in thirty-two bytes, and is read from them whatever follows. -/
theorem Frame.framing_ping :
    ∃ after, write (⟨7⟩ : Ping) .current .regtest .small ⟨.unbounded, []⟩ = .ok 32 after ∧
      ∃ frame : Frame, frame.payload = [7, 0, 0, 0, 0, 0, 0, 0] ∧ frame.command = "ping" ∧
        (read .regtest .small).Yields (after.sink.taken ++ [0x2A]) (.ok frame) 32 := by
  obtain ⟨hiff, hwritten⟩ := framing (Ping.encodes ⟨7⟩ .current) .regtest .small
    ⟨.unbounded, []⟩ Stream.Sink.unbounded_unbounded
  have hname : Command.IsName (Message.command (⟨7⟩ : Ping)) := by decide
  obtain ⟨count, after, hwrite⟩ := hiff.mpr ⟨hname, by decide, by decide⟩
  obtain ⟨hcount, frame, htaken, hcarries⟩ := hwritten count after hwrite
  have hread := hcarries.read [0x2A] .small (by decide)
  rw [Frame.length_encode, hcarries.payload] at hread
  rw [hcount] at hwrite
  refine ⟨after, hwrite, frame, hcarries.payload, hcarries.command, ?_⟩
  rw [htaken]
  exact hread

end Gossip
