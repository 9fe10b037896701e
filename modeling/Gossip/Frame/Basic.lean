import Gossip.Frame.Header
import Gossip.Frame.Message

/-! Frames.

A frame is a header and the payload it announces. Reading checks the magic number and the announced
length before any of the payload is read, and the checksum after; a frame that is read has passed
all three. Writing checks the command and both bounds before the first byte goes out. -/
namespace Gossip

structure Frame where
  header : Header
  payload : Bytes
  deriving DecidableEq, Repr

/-- A sink to write frames to and the records made so far. -/
structure Outbound where
  sink : Stream.Sink
  log : Log := []
  deriving DecidableEq, Repr

namespace Frame

def command (frame : Frame) : String := frame.header.command.text

/-- Checks the payload against the header. -/
def verify (header : Header) (payload : Bytes) : Decoder Frame := do
  let command := header.command.text
  let found := Checksum.of payload
  if found ≠ header.checksum then
    Decoder.reject .frames s!"rejecting {command} message: checksum mismatch"
      (.checksumMismatch header.checksum found)
  else do
    Decoder.record
      ⟨.debug, .frames, s!"read {command} message ({header.length.toNat} payload bytes)"⟩
    return ⟨header, payload⟩

/-- Reads a frame and keeps the calls by which its payload is read. -/
def tracedRead (network : Network) (limits : Limits) : TracedDecoder Frame := do
  let header ← Header.decode
  let length := header.length.toNat
  if header.magic ≠ network.magic then
    let magic := Text.Numeral.upperHex 8 header.magic.toNat
    Decoder.reject .frames s!"rejecting message with magic 0x{magic} on {network.name}"
      (.wrongMagic header.magic network.magic)
  else if limits.maxPayloadBytes < length then
    Decoder.reject .frames (s!"rejecting {header.command.text} message: " ++
        s!"payload length {length} exceeds {limits.maxPayloadBytes}")
      (.overLimit .payloadBytes limits.maxPayloadBytes length)
  else do
    let payload ← Decoder.tracedByteString length
    verify header payload

/-- Reads a frame. -/
def read (network : Network) (limits : Limits) : Decoder Frame :=
  Stream.untraced (tracedRead network limits)

/-- Writes a message in a frame of its own and gives the number of bytes written. -/
def write {M : Type} [Message M] (message : M) (version : ProtocolVersion) (network : Network)
    (limits : Limits) : EStateM EncodeError Outbound Nat := fun outbound =>
  let text := Message.command message
  match Command.ofText? text with
  | none => .error (.invalidCommand text) outbound
  | some command =>
    match Message.payload message version with
    | .error error => .error error outbound
    | .ok payload =>
      if limits.maxPayloadBytes < payload.length then
        .error (.overLimit .payloadBytes limits.maxPayloadBytes payload.length) outbound
      else
        let header := Header.forPayload network command payload
        match Encoder.fields (header.fields ++ [payload]) ⟨outbound.sink, 0⟩ with
        | .error error writer => .error error { outbound with sink := writer.sink }
        | .ok () writer =>
          let entry : Log.Record :=
            ⟨.debug, .frames, s!"wrote {text} message ({payload.length} payload bytes)"⟩
          .ok writer.bytesWritten ⟨writer.sink, outbound.log ++ [entry]⟩

/-- Decodes the payload of a frame into a message that goes by the frame's command. -/
def decodeInto {M : Type} [Message M] (frame : Frame) (version : ProtocolVersion) :
    EStateM DecodeError (M × Log) Unit := fun (message, log) =>
  let expected := Message.command message
  let max := (Message.maxPayloadLength message version).toNat
  let length := frame.payload.length
  if frame.command ≠ expected then
    .error (.commandMismatch expected frame.command) (message, log)
  else if max < length then
    let warning : Log.Record :=
      ⟨.warn, .frames, s!"rejecting {frame.command} message: payload length {length} exceeds {max}"⟩
    .error (.overLimit .messagePayload max length) (message, log ++ [warning])
  else
    match Message.decode version (message, ⟨.ofBytes frame.payload, log⟩) with
    | .ok () (message, inbound) => .ok () (message, inbound.log)
    | .error error (message, inbound) => .error error (message, inbound.log)

end Frame
end Gossip
