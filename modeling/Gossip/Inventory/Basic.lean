import Gossip.Inventory.Item

/-! Inventories.

An inventory is a sequence of at most fifty thousand items, in the order in which they are
announced. The bound is part of the type, and `push`, the only way to grow an inventory, refuses
what would break it. On the wire the items follow their number, a compact size. Decoding checks the
number before it reads any item. -/
namespace Gossip

/-- An inventory has no more items than this. -/
def maxItems : Nat := 50000

structure Inventory where
  items : Array Item
  size_le : items.size ≤ maxItems
  deriving DecidableEq, Repr

/-- An inventory was to be given more items than it may have. -/
structure CapacityExceeded where
  /-- What was to be done. -/
  context : String
  limit : Nat
  deriving DecidableEq, Repr

namespace CapacityExceeded

def message (error : CapacityExceeded) : String :=
  s!"{error.context}: too many inventory vectors in message [max {error.limit}]"

def diagnostic (error : CapacityExceeded) : String :=
  Text.Diagnostic.record "CapacityExceeded"
    [("context", Text.Quoted.text error.context), ("limit", toString error.limit)]

end CapacityExceeded

namespace Inventory

def empty : Inventory := ⟨#[], by decide⟩

/-- An empty inventory with room for some items, and never for more than it may have. -/
def withCapacity (capacity : Nat) : Inventory :=
  ⟨Array.emptyWithCapacity (min capacity maxItems), by simp⟩

instance : Inhabited Inventory := ⟨empty⟩

/-- The items in order. -/
def toList (inventory : Inventory) : List Item := inventory.items.toList

def size (inventory : Inventory) : Nat := inventory.items.size

def isEmpty (inventory : Inventory) : Bool := inventory.items.isEmpty

/-- Can no item be added? -/
def isFull (inventory : Inventory) : Bool := maxItems ≤ inventory.size

/-- Adds an item at the end. -/
@[inline] def push (context : String) (inventory : Inventory) (item : Item) :
    Except CapacityExceeded Inventory :=
  if room : inventory.items.size < maxItems then
    .ok ⟨inventory.items.push item, by rw [Array.size_push]; exact room⟩
  else .error ⟨context, maxItems⟩

/-- The inventory of some items, if they are not too many. -/
def ofArray (items : Array Item) : Except CapacityExceeded Inventory :=
  if fits : items.size ≤ maxItems then .ok ⟨items, fits⟩
  else .error ⟨"InventoryList::try_from", maxItems⟩

@[inline] def append (inventory : Inventory) (item : Item) : Except CapacityExceeded Inventory :=
  push "InventoryList::append" inventory item

/-- No encoding of an inventory is longer than this. -/
def maxPayloadLength (_ : ProtocolVersion) : UInt32 :=
  UInt32.ofNat (CompactSize.maxSize + maxItems * Item.size)

/-- How many bytes the encoding of the inventory takes. -/
def encodedLength (inventory : Inventory) : Nat :=
  CompactSize.size (UInt64.ofNat inventory.size) + inventory.size * Item.size

/-- Reads items and adds them. -/
def readItems (context : String) (version : ProtocolVersion) (announced : Nat) :
    (count : Nat) → Inventory → Decoder Inventory
  | 0, inventory => pure inventory
  | count + 1, inventory => fun inbound =>
    match Decoder.field (Item.read version) inbound with
    | .error error inbound => .error error inbound
    | .ok item inbound =>
      match push context inventory item with
      | .error full => .error (.tooManyItems context announced full.limit) inbound
      | .ok inventory => readItems context version announced count inventory inbound

/-- Decodes an inventory on behalf of `context`. -/
def decodeFor (context : String) (version : ProtocolVersion) : Decoder Inventory := do
  let count ← Decoder.field Stream.Reader.compactSize
  if maxItems < count.toNat then
    Decoder.reject .lists s!"{context}: rejecting inventory count {count} (max {maxItems})"
      (.tooManyItems context count.toNat maxItems)
  else readItems context version count.toNat count.toNat (withCapacity count.toNat)

def decode (version : ProtocolVersion) : Decoder Inventory :=
  decodeFor "InventoryList::decode" version

/-- The fields in the order in which they are written. -/
def fields (inventory : Inventory) : List Bytes :=
  CompactSize.fields (UInt64.ofNat inventory.size) ++ inventory.toList.flatMap Item.fields

/-- The bytes of an inventory. -/
def encoding (inventory : Inventory) : Bytes := inventory.fields.flatten

/-- Encodes an inventory on behalf of `context`, after another look at the bound. -/
def encodeFor (context : String) (inventory : Inventory) (_ : ProtocolVersion) : Encoder Unit :=
  if maxItems < inventory.size then throw (.tooManyItems context inventory.size maxItems)
  else Encoder.fields inventory.fields

def encode (inventory : Inventory) (version : ProtocolVersion) : Encoder Unit :=
  encodeFor "InventoryList::encode" inventory version

def diagnostic (inventory : Inventory) : String :=
  Text.Diagnostic.record "InventoryList"
    [("items", Text.Diagnostic.list (inventory.toList.map Item.diagnostic))]

theorem toList_push {context : String} {inventory grown : Inventory} {item : Item}
    (pushed : push context inventory item = .ok grown) :
    grown.toList = inventory.toList ++ [item] := by
  unfold push at pushed
  split at pushed <;> simp_all [toList]
  simp [← pushed]

end Inventory
end Gossip
