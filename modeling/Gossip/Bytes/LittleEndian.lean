/-! Little-endian integers.

A byte string is a list of bytes. `encode w n` lays a natural number out on exactly `w` bytes, least
significant first, and `decode` reads such a layout back. -/
namespace Gossip

/-- A byte string. -/
abbrev Bytes := List UInt8

namespace LittleEndian

/-- The `width` low bytes of a number, least significant first. -/
def encode : (width : Nat) → Nat → Bytes
  | 0, _ => []
  | width + 1, n => UInt8.ofNat (n % 256) :: encode width (n / 256)

/-- The number that a byte string lays out, least significant byte first. -/
def decode : Bytes → Nat
  | [] => 0
  | byte :: rest => byte.toNat + 256 * decode rest

@[simp] theorem length_encode (width n : Nat) : (encode width n).length = width := by
  induction width generalizing n with
  | zero => rfl
  | succ width ih => simp [encode, ih]

end LittleEndian
end Gossip
