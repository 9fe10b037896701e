import Gossip.Frame.Codec
import Gossip.Frame.Network

/-! The contract of messages.

Framing looks at a message only through its command, the bound it sets for its payload, and its two
codecs. Decoding works on a message that is already there, next to the stream it reads from, and
reports success or an error; what it leaves of the message on an error is up to the message. -/
namespace Gossip

class Message (M : Type) where
  command : M → String
  /-- No payload of the message is longer than this. -/
  maxPayloadLength : M → ProtocolVersion → UInt32
  encode : M → ProtocolVersion → Encoder Unit
  decode : ProtocolVersion → EStateM DecodeError (M × Inbound) Unit
  diagnostic : M → String

/-- A message of which nothing but the contract is known. -/
structure AnyMessage where
  Content : Type
  [contract : Message Content]
  content : Content

namespace AnyMessage

instance (message : AnyMessage) : Message message.Content := message.contract

def command (message : AnyMessage) : String := Message.command message.content

end AnyMessage

namespace Message

/-- The payload of a message, if it keeps to the message's own bound. -/
def payload {M : Type} [Message M] (message : M) (version : ProtocolVersion) :
    Except EncodeError Bytes :=
  match encode message version Stream.Writer.inMemory with
  | .error error _ => .error error
  | .ok () writer =>
    let payload := writer.sink.taken
    let max := (maxPayloadLength message version).toNat
    if max < payload.length then .error (.overLimit .messagePayload max payload.length)
    else .ok payload

end Message
end Gossip
