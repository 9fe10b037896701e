import Gossip.Frame.Codec
import Gossip.Frame.Command
import Gossip.Frame.Network

/-! Frame headers.

A header is twenty-four bytes: the network's magic number, the command, the length of the payload
and its checksum. The command is checked as soon as its field is read. -/
namespace Gossip

structure Header where
  magic : UInt32
  command : Command
  length : UInt32
  checksum : Checksum
  deriving DecidableEq, Repr

namespace Header

/-- How many bytes a header takes. -/
def size : Nat := 24

/-- The header of a payload. A length that does not fit its field would be given as the largest
that does. -/
def forPayload (network : Network) (command : Command) (payload : Bytes) : Header where
  magic := network.magic
  command := command
  length := UInt32.ofNat (min payload.length (UInt32.size - 1))
  checksum := Checksum.of payload

def decode : Decoder Header := do
  let magic ← Decoder.field Stream.Reader.u32
  let field ← Decoder.field (Stream.Reader.octets 12)
  match Command.ofField? field with
  | none => throw (.invalidCommand field)
  | some command => do
    let length ← Decoder.field Stream.Reader.u32
    let checksum ← Decoder.field (Stream.Reader.octets 4)
    return { magic, command, length, checksum }

/-- The fields in the order in which they are written. -/
def fields (header : Header) : List Bytes :=
  [LittleEndian.encode 4 header.magic.toNat, header.command.field.bytes,
    LittleEndian.encode 4 header.length.toNat, header.checksum.bytes]

def encode (header : Header) : Bytes := header.fields.flatten

def diagnostic (header : Header) : String :=
  Text.Diagnostic.record "MessageHeader"
    [("magic", toString header.magic), ("command", header.command.diagnostic),
      ("length", toString header.length),
      ("checksum", Text.Diagnostic.bytes header.checksum.bytes)]

theorem length_encode (header : Header) : header.encode.length = size := by
  simp [encode, fields, size, header.command.field.length_eq, header.checksum.length_eq]

end Header
end Gossip
