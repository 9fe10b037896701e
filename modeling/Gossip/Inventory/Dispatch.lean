import Gossip.Frame.Basic
import Gossip.Inventory.Message

/-! From a frame to the message that its command names.

There are two ways: `InventoryMessage.ofFrame` gives a message of any kind, and `AnyMessage.empty`
gives one of which only the contract is known, for `Frame.decodeInto`. Both start from an empty
message of the kind that the command names. -/
namespace Gossip

/-- An empty message of the kind that a command names, known by its contract alone. -/
def AnyMessage.empty (command : String) : Except DecodeError AnyMessage :=
  match MessageKind.ofCommand? command with
  | some kind => .ok ⟨InventoryOf kind, .empty⟩
  | none => .error (.unknownCommand command)

namespace InventoryMessage

/-- An empty message of the kind that a command names. -/
def empty (command : String) : Except DecodeError InventoryMessage :=
  match MessageKind.ofCommand? command with
  | some kind => .ok ⟨kind, .empty⟩
  | none => .error (.unknownCommand command)

/-- Decodes the payload of a frame as the message that the frame's command names. -/
def ofFrame (frame : Frame) (version : ProtocolVersion) :
    EStateM DecodeError Log InventoryMessage :=
  fun log =>
    match empty frame.command with
    | .error error => .error error log
    | .ok message =>
      match frame.decodeInto version (message, log) with
      | .error error (_, log) => .error error log
      | .ok () (message, log) =>
        let entry : Log.Record :=
          ⟨.debug, .dispatch,
            s!"decoded {Message.command message} with {message.inventory.size} inventory vectors"⟩
        .ok message (log ++ [entry])

/-- Reads a frame and decodes its payload. -/
def read (version : ProtocolVersion) (network : Network) (limits : Limits) :
    Decoder InventoryMessage := fun inbound =>
  match Frame.read network limits inbound with
  | .error error inbound => .error error inbound
  | .ok frame inbound =>
    match ofFrame frame version inbound.log with
    | .ok message log => .ok message { inbound with log }
    | .error error log => .error error { inbound with log }

end InventoryMessage
end Gossip
