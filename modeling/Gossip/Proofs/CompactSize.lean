import Gossip.Bytes.CompactSize
import Gossip.Proofs.LittleEndian

/-! Compact sizes on byte strings.

A first byte and the bytes that it announces stand for a number (`valueOf`), in a form that is as
long as the number's canonical form or longer. `encode_valueOf` says that in the first case the form
is the canonical one, `exists_valueOf` that every canonical form is of this kind. -/
namespace Gossip.CompactSize

/-- What a first byte and those that follow it stand for. -/
def valueOf (first : UInt8) (tail : Bytes) : UInt64 :=
  if tail = [] then first.toUInt64 else UInt64.ofNat (LittleEndian.decode tail)

theorem valueOf_nil (first : UInt8) : valueOf first [] = first.toUInt64 := rfl

/-- The first bytes that announce others. -/
theorem tailWidth_cases (first : UInt8) :
    (first = 0xFD ∧ tailWidth first = 2) ∨ (first = 0xFE ∧ tailWidth first = 4) ∨
      (first = 0xFF ∧ tailWidth first = 8) ∨ (first.toNat < 0xFD ∧ tailWidth first = 0) := by
  by_cases h1 : first = 0xFD
  · exact .inl ⟨h1, by rw [h1]; rfl⟩
  by_cases h2 : first = 0xFE
  · exact .inr (.inl ⟨h2, by rw [h2]; rfl⟩)
  by_cases h3 : first = 0xFF
  · exact .inr (.inr (.inl ⟨h3, by rw [h3]; rfl⟩))
  refine .inr (.inr (.inr ⟨?_, by simp [tailWidth, h1, h2, h3]⟩))
  have hb := first.toNat_lt
  simp only [← UInt8.toNat_inj] at h1 h2 h3
  simp at h1 h2 h3
  omega

/-- A small number is its own form. -/
theorem fields_small (value : UInt64) (h : value.toNat < 0xFD) :
    fields value = [[value.toUInt8]] ∧ size value = 1 := by
  have hv : value < 0xFD := UInt64.lt_iff_toNat_lt.mpr h
  simp [fields, size, hv]

/-- Any other number has a first byte that announces as many bytes as it needs. -/
theorem fields_large (first : UInt8) (value : UInt64) (hw : tailWidth first ≠ 0)
    (hmin : leastOf (tailWidth first) ≤ value.toNat)
    (hmax : value.toNat < LittleEndian.capacity (tailWidth first)) :
    fields value = [[first], LittleEndian.encode (tailWidth first) value.toNat] ∧
      size value = 1 + tailWidth first := by
  have hFD : (value < 0xFD) = (value.toNat < 0xFD) := propext UInt64.lt_iff_toNat_lt
  have h16 : (value ≤ 0xFFFF) = (value.toNat ≤ 0xFFFF) := propext UInt64.le_iff_toNat_le
  have h32 : (value ≤ 0xFFFFFFFF) = (value.toNat ≤ 0xFFFFFFFF) := propext UInt64.le_iff_toNat_le
  unfold fields size
  rcases tailWidth_cases first with ⟨rfl, h⟩ | ⟨rfl, h⟩ | ⟨rfl, h⟩ | ⟨-, h⟩
  · rw [h] at hmin hmax ⊢
    have hmin' : 0xFD ≤ value.toNat := hmin
    have hmax' : value.toNat < 0x10000 := hmax
    simp only [hFD, h16, h32, if_neg (show ¬ value.toNat < 0xFD by omega),
      if_pos (show value.toNat ≤ 0xFFFF by omega), and_self]
  · rw [h] at hmin hmax ⊢
    have hmin' : 0x10000 ≤ value.toNat := hmin
    have hmax' : value.toNat < 0x100000000 := hmax
    simp only [hFD, h16, h32, if_neg (show ¬ value.toNat < 0xFD by omega),
      if_neg (show ¬ value.toNat ≤ 0xFFFF by omega),
      if_pos (show value.toNat ≤ 0xFFFFFFFF by omega), and_self]
  · rw [h] at hmin ⊢
    have hmin' : 0x100000000 ≤ value.toNat := hmin
    simp only [hFD, h16, h32, if_neg (show ¬ value.toNat < 0xFD by omega),
      if_neg (show ¬ value.toNat ≤ 0xFFFF by omega),
      if_neg (show ¬ value.toNat ≤ 0xFFFFFFFF by omega), and_self]
  · exact absurd h hw

/-- Some first byte fits every number that is not small. -/
theorem exists_first (value : UInt64) (h : 0xFD ≤ value.toNat) :
    ∃ first, tailWidth first ≠ 0 ∧ leastOf (tailWidth first) ≤ value.toNat ∧
      value.toNat < LittleEndian.capacity (tailWidth first) := by
  by_cases h16 : value.toNat ≤ 0xFFFF
  · exact ⟨0xFD, by decide, h, show value.toNat < 0x10000 by omega⟩
  by_cases h32 : value.toNat ≤ 0xFFFFFFFF
  · exact ⟨0xFE, by decide, show 0x10000 ≤ value.toNat by omega,
      show value.toNat < 0x100000000 by omega⟩
  · exact ⟨0xFF, by decide, show 0x100000000 ≤ value.toNat by omega, value.toNat_lt⟩

/-- What `tail` stands for after a first byte that announces it. -/
theorem toNat_valueOf (first : UInt8) (tail : Bytes) (h : tail.length = tailWidth first)
    (hw : tailWidth first ≠ 0) :
    (valueOf first tail).toNat = LittleEndian.decode tail ∧
      LittleEndian.decode tail < LittleEndian.capacity (tailWidth first) := by
  have hne : tail ≠ [] := by
    intro he
    rw [he, List.length_nil] at h
    exact hw h.symm
  have hlt := LittleEndian.decode_lt tail
  rw [h] at hlt
  have h64 : LittleEndian.decode tail < 2 ^ 64 := by
    apply Nat.lt_of_lt_of_le hlt
    rcases tailWidth_cases first with ⟨-, h⟩ | ⟨-, h⟩ | ⟨-, h⟩ | ⟨-, h⟩ <;> rw [h] <;> decide
  refine ⟨?_, hlt⟩
  rw [valueOf, if_neg hne, UInt64.toNat_ofNat_of_lt' h64]

theorem size_pos (value : UInt64) : 0 < size value := by
  unfold size
  repeat' split
  all_goals decide

/-- The least number of a form is the least that no shorter form has. -/
theorem size_lt_iff (first : UInt8) (tail : Bytes) (h : tail.length = tailWidth first)
    (hw : tailWidth first ≠ 0) :
    size (valueOf first tail) < 1 + tailWidth first ↔
      LittleEndian.decode tail < leastOf (tailWidth first) := by
  obtain ⟨hv, hlt⟩ := toNat_valueOf first tail h hw
  constructor
  · intro hs
    apply Nat.lt_of_not_le
    intro hmin
    have := (fields_large first _ hw (by rw [hv]; exact hmin) (by rw [hv]; exact hlt)).2
    omega
  · intro hs
    by_cases hsmall : (valueOf first tail).toNat < 0xFD
    · rw [(fields_small _ hsmall).2]
      omega
    · obtain ⟨other, hw', hmin, hmax⟩ := exists_first (valueOf first tail) (by omega)
      rw [(fields_large other _ hw' hmin hmax).2]
      rw [hv] at hmin hmax
      rcases tailWidth_cases first with ⟨-, h⟩ | ⟨-, h⟩ | ⟨-, h⟩ | ⟨-, h⟩ <;>
        rcases tailWidth_cases other with ⟨-, h'⟩ | ⟨-, h'⟩ | ⟨-, h'⟩ | ⟨-, h'⟩ <;>
        rw [h] at hs hlt ⊢ <;> rw [h'] at hmin ⊢ <;> simp [leastOf] at hs hmin ⊢ <;> omega

/-- A form that is no longer than the canonical one is the canonical one. -/
theorem encode_valueOf (first : UInt8) (tail : Bytes) (h : tail.length = tailWidth first)
    (hs : ¬ size (valueOf first tail) < 1 + tailWidth first) :
    encode (valueOf first tail) = first :: tail := by
  by_cases hw : tailWidth first = 0
  · have ht : tail = [] := by rw [← List.length_eq_zero_iff, h, hw]
    have hsmall : first.toUInt64.toNat < 0xFD := by
      rcases tailWidth_cases first with ⟨-, h⟩ | ⟨-, h⟩ | ⟨-, h⟩ | ⟨hlt, -⟩
      · omega
      · omega
      · omega
      · simpa using hlt
    rw [ht, valueOf_nil, encode, (fields_small _ hsmall).1]
    simp
  · obtain ⟨hv, hlt⟩ := toNat_valueOf first tail h hw
    rw [size_lt_iff first tail h hw] at hs
    rw [encode, (fields_large first _ hw (by omega) (by omega)).1, hv]
    simp only [List.flatten_cons, List.flatten_nil, List.append_nil, List.cons_append,
      List.nil_append, ← h, LittleEndian.encode_decode]

/-- Every canonical form is a first byte and what it announces. -/
theorem exists_valueOf (value : UInt64) :
    ∃ first tail, encode value = first :: tail ∧ tail.length = tailWidth first ∧
      valueOf first tail = value ∧ size value = 1 + tailWidth first := by
  by_cases hsmall : value.toNat < 0xFD
  · have hb : value.toUInt8.toNat = value.toNat := by
      simp
      omega
    have hw : tailWidth value.toUInt8 = 0 := by
      rcases tailWidth_cases value.toUInt8 with ⟨h, -⟩ | ⟨h, -⟩ | ⟨h, -⟩ | ⟨-, h⟩
      · rw [h] at hb; simp at hb; omega
      · rw [h] at hb; simp at hb; omega
      · rw [h] at hb; simp at hb; omega
      · exact h
    refine ⟨value.toUInt8, [], ?_, by rw [hw]; rfl, ?_, ?_⟩
    · rw [encode, (fields_small value hsmall).1]
      rfl
    · rw [valueOf_nil]
      apply UInt64.toNat_inj.mp
      simpa using hb
    · rw [(fields_small value hsmall).2, hw]
  · obtain ⟨first, hw, hmin, hmax⟩ := exists_first value (by omega)
    obtain ⟨hf, hs⟩ := fields_large first value hw hmin hmax
    have hl := LittleEndian.length_encode (tailWidth first) value.toNat
    refine ⟨first, _, by rw [encode, hf]; simp, hl, ?_, hs⟩
    apply UInt64.toNat_inj.mp
    rw [(toNat_valueOf first _ hl hw).1, LittleEndian.decode_encode_of_lt hmax]

/-! ### What a byte string starts with -/

/-- How a byte string starts, as a compact size. -/
inductive Shape : Bytes → Prop where
  | none : Shape []
  | cut (first : UInt8) {rest : Bytes} : rest.length < tailWidth first → Shape (first :: rest)
  | wide (first : UInt8) (tail rest : Bytes) : tail.length = tailWidth first →
    size (valueOf first tail) < 1 + tail.length → Shape (first :: (tail ++ rest))
  | whole (value : UInt64) (rest : Bytes) : Shape (encode value ++ rest)

/-- Every byte string starts in one of these ways. -/
theorem shape (bytes : Bytes) : Shape bytes := by
  cases bytes with
  | nil => exact .none
  | cons first rest =>
    by_cases hl : rest.length < tailWidth first
    · exact .cut first hl
    have hwidth : (rest.take (tailWidth first)).length = tailWidth first :=
      List.length_take_of_le (Nat.le_of_not_lt hl)
    rw [← List.take_append_drop (tailWidth first) rest]
    by_cases hs : size (valueOf first (rest.take (tailWidth first))) < 1 + tailWidth first
    · exact .wide first _ _ hwidth (by rw [hwidth]; exact hs)
    · rw [← List.cons_append, ← encode_valueOf first _ hwidth hs]
      exact .whole _ _

end Gossip.CompactSize
