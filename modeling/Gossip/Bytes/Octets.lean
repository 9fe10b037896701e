import Gossip.Bytes.LittleEndian

/-! Byte strings of a length fixed by their type. -/
namespace Gossip

/-- Exactly `width` bytes. -/
structure Octets (width : Nat) where
  bytes : Bytes
  length_eq : bytes.length = width
  deriving DecidableEq, Repr

namespace Octets

/-- Every byte is zero. -/
def zero (width : Nat) : Octets width :=
  ⟨List.replicate width 0, List.length_replicate⟩

instance (width : Nat) : Inhabited (Octets width) := ⟨zero width⟩

/-- The bytes in the other order. -/
def reverse {width : Nat} (octets : Octets width) : Octets width :=
  ⟨octets.bytes.reverse, by simp [octets.length_eq]⟩

@[ext] theorem ext {width : Nat} {a b : Octets width} (same : a.bytes = b.bytes) : a = b := by
  cases a; cases b; simp_all

theorem reverse_reverse {width : Nat} (octets : Octets width) :
    octets.reverse.reverse = octets := by
  ext1
  simp [reverse]

end Octets
end Gossip
