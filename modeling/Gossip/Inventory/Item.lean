import Gossip.Frame.Codec
import Gossip.Frame.Network
import Gossip.Inventory.ObjectHash
import Gossip.Inventory.ObjectType

/-! Inventory items: the records of thirty-six bytes by which peers tell each other what they have.

The layout is the same in every protocol version. -/
namespace Gossip

structure Item where
  type : ObjectType
  hash : ObjectHash
  deriving DecidableEq, Repr

namespace Item

/-- How many bytes an item takes. -/
def size : Nat := 36

def read (_ : ProtocolVersion) : Stream.Read Item := do
  let tag ← Stream.Reader.u32
  let hash ← Stream.Reader.octets 32
  return ⟨.ofTag tag, ⟨hash⟩⟩

/-- The tag and the hash, as they are written. -/
def fields (item : Item) : List Bytes :=
  [LittleEndian.encode 4 item.type.tag.toNat, item.hash.bytes]

def encode (item : Item) : Bytes := item.fields.flatten

def write (_ : ProtocolVersion) (item : Item) : Encoder Unit := Encoder.fields item.fields

def diagnostic (item : Item) : String :=
  Text.Diagnostic.record "InvVect"
    [("inv_type", item.type.diagnostic), ("hash", item.hash.diagnostic)]

/-- The item with the kind that its tag leads to. -/
def canonical (item : Item) : Item := { item with type := .ofTag item.type.tag }

theorem length_encode (item : Item) : item.encode.length = size := by
  simp [encode, fields, size, ObjectHash.bytes, item.hash.octets.length_eq]

end Item
end Gossip
