import Gossip.Bytes.Octets

/-! Little-endian layouts and numbers determine each other.

On a given width, writing a number and reading it back gives the number modulo how many fit the
width (`decode_encode`); reading a byte string and writing it back on its own width gives the byte
string (`encode_decode`). So any four bytes are the layout of a 32-bit number (`exists_u32`). -/
namespace Gossip.LittleEndian

/-- How many numbers fit a width. -/
def capacity : Nat → Nat
  | 0 => 1
  | width + 1 => 256 * capacity width

theorem decode_encode (width n : Nat) : decode (encode width n) = n % capacity width := by
  induction width generalizing n with
  | zero => simp [encode, decode, capacity, Nat.mod_one]
  | succ width ih =>
    have low : (UInt8.ofNat (n % 256)).toNat = n % 256 := by
      simp [UInt8.toNat_ofNat']
    rw [encode, decode, ih, low, capacity, Nat.mod_mul]

theorem decode_encode_of_lt {width n : Nat} (fits : n < capacity width) :
    decode (encode width n) = n := by
  rw [decode_encode, Nat.mod_eq_of_lt fits]

theorem decode_lt (bytes : Bytes) : decode bytes < capacity bytes.length := by
  induction bytes with
  | nil => simp [decode, capacity]
  | cons byte rest ih =>
    have := byte.toNat_lt
    simp only [decode, List.length_cons, capacity]
    omega

theorem encode_decode (bytes : Bytes) : encode bytes.length (decode bytes) = bytes := by
  induction bytes with
  | nil => rfl
  | cons byte rest ih =>
    have := byte.toNat_lt
    have low : (byte.toNat + 256 * decode rest) % 256 = byte.toNat := by omega
    have high : (byte.toNat + 256 * decode rest) / 256 = decode rest := by omega
    simp [encode, decode, low, high, ih]

/-- A byte is its own layout. -/
theorem encode_byte (byte : UInt8) : encode 1 byte.toNat = [byte] :=
  encode_decode [byte]

end Gossip.LittleEndian

namespace Gossip

/-! ### Pieces of byte strings -/

/-- A piece at the front. -/
theorem Bytes.extract_front {a b : Bytes} {n : Nat} (h : a.length = n) :
    (a ++ b).extract 0 n = a := by
  rw [List.extract_eq_take_drop, List.drop_zero, Nat.sub_zero, List.take_left' h]

/-- A piece behind the front. -/
theorem Bytes.extract_behind {a b : Bytes} {n : Nat} (h : a.length = n) (i j : Nat) :
    (a ++ b).extract (n + i) (n + j) = b.extract i j := by
  rw [List.extract_eq_take_drop, List.extract_eq_take_drop, ← List.drop_drop, List.drop_left' h,
    Nat.add_sub_add_left]

/-- Enough bytes start with a field of any width. -/
theorem Octets.exists_front {width : Nat} {bytes : Bytes} (h : width ≤ bytes.length) :
    ∃ (field : Octets width) (rest : Bytes), bytes = field.bytes ++ rest :=
  ⟨⟨bytes.take width, List.length_take_of_le h⟩, bytes.drop width,
    (List.take_append_drop width bytes).symm⟩

/-- Four bytes lay out a 32-bit number. -/
theorem Octets.exists_u32 (field : Octets 4) :
    ∃ n : UInt32, LittleEndian.encode 4 n.toNat = field.bytes := by
  have hlt := LittleEndian.decode_lt field.bytes
  have hcode := LittleEndian.encode_decode field.bytes
  rw [field.length_eq] at hlt hcode
  refine ⟨UInt32.ofNat (LittleEndian.decode field.bytes), ?_⟩
  rw [UInt32.toNat_ofNat_of_lt' hlt, hcode]

theorem LittleEndian.exists_u32_front {bytes : Bytes} (h : 4 ≤ bytes.length) :
    ∃ (n : UInt32) (rest : Bytes), bytes = encode 4 n.toNat ++ rest := by
  obtain ⟨field, rest, rfl⟩ := Octets.exists_front h
  obtain ⟨n, hn⟩ := field.exists_u32
  exact ⟨n, rest, by rw [hn]⟩

end Gossip
