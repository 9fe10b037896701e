import Gossip.Bytes.LittleEndian

/-! Compact sizes.

A compact size is an unsigned 64-bit number in one, three, five or nine bytes: a number below `0xFD`
is its own single byte, and the first bytes `0xFD`, `0xFE` and `0xFF` announce two, four and eight
little-endian bytes. Of the forms that could hold a number only the shortest one is canonical:
`leastOf` gives the least number that each longer form may hold. -/
namespace Gossip.CompactSize

/-- No compact size takes more bytes than this. -/
def maxSize : Nat := 9

/-- How many bytes the canonical form of a number takes. -/
def size (value : UInt64) : Nat :=
  if value < 0xFD then 1
  else if value ≤ 0xFFFF then 3
  else if value ≤ 0xFFFFFFFF then 5
  else 9

/-- How many little-endian bytes follow a first byte. -/
def tailWidth (first : UInt8) : Nat :=
  if first = 0xFD then 2 else if first = 0xFE then 4 else if first = 0xFF then 8 else 0

/-- The least number that may stand in this many bytes after the first. -/
def leastOf (width : Nat) : Nat :=
  if width = 2 then 0xFD else if width = 4 then 0x10000 else if width = 8 then 0x100000000 else 0

/-- The canonical form, one byte string for the first byte and one for what follows it. -/
def fields (value : UInt64) : List Bytes :=
  if value < 0xFD then [[value.toUInt8]]
  else if value ≤ 0xFFFF then [[0xFD], LittleEndian.encode 2 value.toNat]
  else if value ≤ 0xFFFFFFFF then [[0xFE], LittleEndian.encode 4 value.toNat]
  else [[0xFF], LittleEndian.encode 8 value.toNat]

/-- The canonical form. -/
def encode (value : UInt64) : Bytes :=
  (fields value).flatten

theorem length_encode (value : UInt64) : (encode value).length = size value := by
  simp only [encode, fields, size]
  split
  · simp
  split
  · simp
  split <;> simp

theorem size_le (value : UInt64) : size value ≤ maxSize := by
  simp only [size, maxSize]
  split
  · omega
  split
  · omega
  split <;> omega

end Gossip.CompactSize
