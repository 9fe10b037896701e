import Gossip.Frame.Message
import Gossip.Inventory.Basic

/-! The messages that carry an inventory.

There are three: an announcement of objects, a request for them, and the answer that they are not
there. `InventoryOf kind` is a message of a kind that is known, `InventoryMessage` one of any kind.
Both keep the contract of messages, the second through the first. A decoding error leaves the
message as it was. -/
namespace Gossip

inductive MessageKind where
  /-- Objects that a peer has. -/
  | inv
  /-- Objects that a peer asks for. -/
  | getData
  /-- Objects that were asked for and are not there. -/
  | notFound
  deriving DecidableEq, Repr

namespace MessageKind

def command : MessageKind → String
  | .inv => "inv"
  | .getData => "getdata"
  | .notFound => "notfound"

def all : List MessageKind := [.inv, .getData, .notFound]

def ofCommand? (command : String) : Option MessageKind :=
  all.find? fun kind => kind.command == command

/-- The word that stands for the kind in diagnostics and in JSON. -/
def word : MessageKind → String
  | .inv => "Inv"
  | .getData => "GetData"
  | .notFound => "NotFound"

/-- The name under which messages of the kind report errors. -/
def name (kind : MessageKind) : String := "Msg" ++ kind.word

end MessageKind

/-- A message of a known kind. -/
structure InventoryOf (kind : MessageKind) where
  inventory : Inventory
  deriving DecidableEq, Repr

namespace InventoryOf
variable {kind : MessageKind}

def empty : InventoryOf kind := ⟨.empty⟩

instance : Inhabited (InventoryOf kind) := ⟨empty⟩

/-- Adds an item at the end of the inventory. -/
@[inline] def append (message : InventoryOf kind) (item : Item) :
    Except CapacityExceeded (InventoryOf kind) :=
  InventoryOf.mk <$> Inventory.push (kind.name ++ "::add_inv_vect") message.inventory item

def diagnostic (message : InventoryOf kind) : String :=
  Text.Diagnostic.record kind.name [("inv_list", message.inventory.diagnostic)]

instance : Message (InventoryOf kind) where
  command _ := kind.command
  maxPayloadLength _ version := Inventory.maxPayloadLength version
  encode message version := Inventory.encodeFor (kind.name ++ "::encode") message.inventory version
  decode version := fun (message, inbound) =>
    match Inventory.decodeFor (kind.name ++ "::decode") version inbound with
    | .ok inventory inbound => .ok () (⟨inventory⟩, inbound)
    | .error error inbound => .error error (message, inbound)
  diagnostic := diagnostic

end InventoryOf

/-- A message of any kind. -/
structure InventoryMessage where
  kind : MessageKind
  content : InventoryOf kind

namespace InventoryMessage

instance : DecidableEq InventoryMessage
  | ⟨kind, a⟩, ⟨kind', b⟩ =>
    if same : kind = kind' then by
      subst same
      exact decidable_of_iff (a = b) (by simp)
    else isFalse (by simp [same])

instance : Inhabited InventoryMessage := ⟨⟨.inv, .empty⟩⟩

def inventory (message : InventoryMessage) : Inventory := message.content.inventory

def diagnostic (message : InventoryMessage) : String :=
  Text.Diagnostic.tagged message.kind.word message.content.diagnostic

instance : Message InventoryMessage where
  command message := Message.command message.content
  maxPayloadLength message version := Message.maxPayloadLength message.content version
  encode message version := Message.encode message.content version
  decode version := fun (message, inbound) =>
    match Message.decode version (message.content, inbound) with
    | .ok () (content, inbound) => .ok () (⟨message.kind, content⟩, inbound)
    | .error error (content, inbound) => .error error (⟨message.kind, content⟩, inbound)
  diagnostic := diagnostic

end InventoryMessage
end Gossip
