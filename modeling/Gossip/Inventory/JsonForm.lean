import Gossip.Inventory.Message
import Gossip.Json.Parser
import Gossip.Json.Printer

/-! Inventories and their messages in JSON.

A kind of object is the word that stands for it, and an unknown kind an object with its tag under
`Unknown`; a kind with a name may also be read from an object with nothing under its word. A hash is
its text. An item is an object of two members, an inventory the array of its items, a message of a
known kind an object with its inventory, and a message of any kind an object with the message under
the word for its kind. What `toJson` gives, `ofJson?` reads. -/
namespace Gossip

namespace ObjectType

def toJson : ObjectType → Json
  | .unknown tag => .ofFields [("Unknown", .ofNat tag.toNat)]
  | kind => .ofString kind.word

/-- The kind with a name that goes by a word. -/
def ofWord? (word : String) : Option ObjectType :=
  (named.find? fun entry => entry.1 == word).map Prod.snd

def ofJson? : Json → Option ObjectType
  | .text (some word) => ofWord? word
  | .object [(some word, value)] =>
    if word = "Unknown" then ObjectType.unknown <$> value.uint32?
    else match value with
      | .null => ofWord? word
      | _ => none
  | _ => none

end ObjectType

namespace ObjectHash

def toJson (hash : ObjectHash) : Json := .ofString hash.text

def ofJson? (value : Json) : Option ObjectHash := do
  match parse (← value.text?) with
  | .ok hash => some hash
  | .error _ => none

end ObjectHash

namespace Item

def toJson (item : Item) : Json :=
  .ofFields [("inv_type", item.type.toJson), ("hash", item.hash.toJson)]

def ofJson? (value : Json) : Option Item :=
  match value.fields? ["inv_type", "hash"] with
  | some [type, hash] => do return ⟨← ObjectType.ofJson? type, ← ObjectHash.ofJson? hash⟩
  | _ => none

end Item

namespace Inventory

def toJson (inventory : Inventory) : Json := .array (inventory.toList.map Item.toJson)

def ofJson? : Json → Option Inventory
  | .array elements => do
    let items ← elements.mapM Item.ofJson?
    match ofArray items.toArray with
    | .ok inventory => some inventory
    | .error _ => none
  | _ => none

end Inventory

namespace InventoryOf
variable {kind : MessageKind}

def toJson (message : InventoryOf kind) : Json :=
  .ofFields [("inv_list", message.inventory.toJson)]

def ofJson? (value : Json) : Option (InventoryOf kind) :=
  match value.fields? ["inv_list"] with
  | some [inventory] => InventoryOf.mk <$> Inventory.ofJson? inventory
  | _ => none

end InventoryOf

namespace InventoryMessage

def toJson (message : InventoryMessage) : Json :=
  .ofFields [(message.kind.word, message.content.toJson)]

def ofJson? : Json → Option InventoryMessage
  | .object [(some word, value)] => do
    let kind ← MessageKind.all.find? fun kind => kind.word == word
    let content ← InventoryOf.ofJson? value
    return ⟨kind, content⟩
  | _ => none

end InventoryMessage
end Gossip
