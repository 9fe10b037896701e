import Gossip.Proofs.CompactSize
import Gossip.Proofs.Stream.Stretch
import Gossip.Stream.Reader

/-! What a reader makes of the bytes that arrive.

Each field has two lemmas. If the layout of a value is in front of what arrives, reading the field
gives the value and moves the reader just past it (`skip`). If fewer bytes arrive than the field
needs, reading gives the error for the stop and the whole stretch is consumed (`drain`). -/
namespace Gossip.Stream

/-! ### One step of a computation after the other -/

section Steps
variable {ε σ α β : Type} {m : EStateM ε σ α} {s s' : σ}

theorem bind_ok {f : α → EStateM ε σ β} {a : α} (h : m s = .ok a s') : (m >>= f) s = f a s' := by
  simp only [bind, EStateM.bind, h]

theorem bind_error {f : α → EStateM ε σ β} {e : ε} (h : m s = .error e s') :
    (m >>= f) s = .error e s' := by
  simp only [bind, EStateM.bind, h]

theorem map_ok {f : α → β} {a : α} (h : m s = .ok a s') : (f <$> m) s = .ok (f a) s' := by
  simp only [Functor.map, EStateM.map, h]

theorem map_error {f : α → β} {e : ε} (h : m s = .error e s') : (f <$> m) s = .error e s' := by
  simp only [Functor.map, EStateM.map, h]

end Steps

namespace Reader

/-! ### Where a reader stands -/

def arriving (reader : Reader) : Bytes := reader.source.arriving

def ending (reader : Reader) : Source.Stop := reader.source.ending

/-- The reader when this many more bytes have been read. -/
def skip (count : Nat) (reader : Reader) : Reader :=
  ⟨reader.source.skip count, reader.bytesRead + count⟩

/-- The reader when everything up to the stop has been read, and the stop met. -/
def drain (reader : Reader) : Reader :=
  ⟨reader.source.resumed, reader.bytesRead + reader.arriving.length⟩

@[simp] theorem bytesRead_skip (count : Nat) (reader : Reader) :
    (reader.skip count).bytesRead = reader.bytesRead + count := rfl

@[simp] theorem skip_zero (reader : Reader) : reader.skip 0 = reader := by
  simp [skip]

@[simp] theorem skip_skip (first second : Nat) (reader : Reader) :
    (reader.skip first).skip second = reader.skip (first + second) := by
  simp only [skip, Source.skip_skip, Nat.add_assoc]

theorem arriving_skip {reader : Reader} {front rest : Bytes} {count : Nat}
    (h : reader.arriving = front ++ rest) (hc : front.length = count) :
    (reader.skip count).arriving = rest := by
  have hl : count ≤ reader.source.arriving.length := by
    have := congrArg List.length h
    rw [List.length_append, hc] at this
    exact this ▸ Nat.le_add_right ..
  show (reader.source.skip count).arriving = rest
  rw [Source.arriving_skip count _ hl, show reader.source.arriving = front ++ rest from h, ← hc,
    List.drop_left]

theorem ending_skip {reader : Reader} {count : Nat} (h : count ≤ reader.arriving.length) :
    (reader.skip count).ending = reader.ending :=
  Source.ending_skip count _ h

/-- To drain a reader that has moved on is to drain it where it was. -/
theorem drain_skip {reader : Reader} {count : Nat} (h : count ≤ reader.arriving.length) :
    (reader.skip count).drain = reader.drain := by
  have hl : (reader.skip count).arriving.length = reader.arriving.length - count := by
    show (reader.source.skip count).arriving.length = _
    rw [Source.arriving_skip count _ h, List.length_drop]
    rfl
  have hr : (reader.skip count).source.resumed = reader.source.resumed :=
    Source.resumed_skip count _ h
  simp only [drain, hr, hl, bytesRead_skip, Reader.mk.injEq, true_and]
  omega

/-! ### Fields of a known width -/

theorem octets_front {width : Nat} {reader : Reader} {field : Octets width} {rest : Bytes}
    (h : reader.arriving = field.bytes ++ rest) :
    octets width reader = .ok field (reader.skip width) := by
  have hl : width ≤ reader.source.arriving.length := by
    have := congrArg List.length h
    rw [List.length_append, field.length_eq] at this
    exact this ▸ Nat.le_add_right ..
  obtain ⟨hgot, hstop, hrest⟩ := Source.fill_enough 0 width reader.source hl
  have htake : reader.source.arriving.take width = field.bytes := by
    rw [show reader.source.arriving = field.bytes ++ rest from h, List.take_left' field.length_eq]
  unfold octets
  dsimp only
  split
  · simp only [advanced, hgot, htake, hrest, field.length_eq]
    rfl
  · rename_i stop hsome
    rw [hstop] at hsome
    cases hsome

theorem octets_short {width : Nat} {reader : Reader} {rest : Bytes} (h : reader.arriving = rest)
    (hl : rest.length < width) :
    octets width reader = .error (failure width rest.length reader.ending) reader.drain := by
  subst h
  obtain ⟨hgot, hstop, hrest⟩ := Source.fill_short 0 width reader.source hl
  unfold octets
  dsimp only
  split
  · rename_i hnone
    rw [hstop] at hnone
    cases hnone
  · rename_i stop hsome
    rw [hstop] at hsome
    cases hsome
    simp only [advanced, hgot, hrest]
    rfl

theorem byteString_eq (length : Nat) (reader : Reader) :
    byteString length reader =
      let filled := Source.gather 0 length reader.source
      let after := advanced reader.bytesRead filled
      match filled.stop with
      | none => .ok filled.got after
      | some stop => .error (failure length filled.got.length stop) after := by
  simp only [byteString, untraced, tracedByteString]
  cases (Source.gather 0 length reader.source).stop <;> rfl

theorem callsMade_byteString (length : Nat) (reader : Reader) :
    callsMade (tracedByteString length) reader = (Source.gather 0 length reader.source).calls := by
  simp only [callsMade, tracedByteString]
  cases (Source.gather 0 length reader.source).stop <;> rfl

theorem byteString_front {reader : Reader} {bytes rest : Bytes} {length : Nat}
    (h : reader.arriving = bytes ++ rest) (hl : bytes.length = length) :
    byteString length reader = .ok bytes (reader.skip length) := by
  have harr : reader.source.arriving = bytes ++ rest := h
  obtain ⟨hgot, hstop, hrest⟩ := Source.gather_enough 0 length reader.source (by
    rw [harr, List.length_append, hl]
    exact Nat.le_add_right ..)
  have htake : reader.source.arriving.take length = bytes := by
    rw [harr, ← hl, List.take_left]
  rw [byteString_eq]
  simp only [hstop, hgot, htake, advanced, hrest, hl]
  rfl

theorem byteString_short {reader : Reader} {rest : Bytes} {length : Nat}
    (h : reader.arriving = rest) (hl : rest.length < length) :
    byteString length reader = .error (failure length rest.length reader.ending) reader.drain := by
  subst h
  obtain ⟨hgot, hstop, hrest⟩ := Source.gather_short 0 length reader.source hl
  rw [byteString_eq]
  simp only [hstop, hgot, advanced, hrest]
  rfl

/-- A buffer that is filled holds what arrived. -/
theorem fillBuffer_front {reader : Reader} {buffer bytes rest lent : Bytes}
    (h : reader.arriving = bytes ++ rest) (hl : bytes.length = buffer.length) :
    fillBuffer buffer (lent, reader) = .ok () (bytes, reader.skip buffer.length) := by
  have harr : reader.source.arriving = bytes ++ rest := h
  obtain ⟨hgot, hstop, hrest⟩ := Source.fill_enough 0 buffer.length reader.source (by
    rw [harr, List.length_append, hl]
    exact Nat.le_add_right ..)
  have htake : reader.source.arriving.take buffer.length = bytes := by
    rw [harr, ← hl, List.take_left]
  have hdrop : buffer.drop bytes.length = [] := List.drop_eq_nil_of_le (Nat.le_of_eq hl.symm)
  simp only [fillBuffer, hstop, hgot, htake, advanced, hrest, hdrop, List.append_nil]
  rw [hl]
  rfl

/-- A buffer that is not filled holds what arrived in front of what it held. -/
theorem fillBuffer_short {reader : Reader} {buffer rest lent : Bytes} (h : reader.arriving = rest)
    (hl : rest.length < buffer.length) :
    fillBuffer buffer (lent, reader) =
      .error (failure buffer.length rest.length reader.ending)
        (rest ++ buffer.drop rest.length, reader.drain) := by
  subst h
  obtain ⟨hgot, hstop, hrest⟩ := Source.fill_short 0 buffer.length reader.source hl
  simp only [fillBuffer, hstop, hgot, advanced, hrest]
  rfl

/-! ### Numbers -/

theorem number_front {width : Nat} {reader : Reader} {bytes rest : Bytes}
    (h : reader.arriving = bytes ++ rest) (hw : bytes.length = width) :
    number width reader = .ok (LittleEndian.decode bytes) (reader.skip width) := by
  have hfield : octets width reader = .ok ⟨bytes, hw⟩ (reader.skip width) := octets_front h
  unfold number
  rw [bind_ok hfield]
  rfl

theorem number_short {width : Nat} {reader : Reader} {rest : Bytes} (h : reader.arriving = rest)
    (hl : rest.length < width) :
    number width reader = .error (failure width rest.length reader.ending) reader.drain := by
  unfold number
  rw [bind_error (octets_short h hl)]

/-- A number that fits its width is read from its layout. -/
theorem number_encode_front {width n : Nat} {reader : Reader} {rest : Bytes}
    (h : reader.arriving = LittleEndian.encode width n ++ rest)
    (fits : n < LittleEndian.capacity width) :
    number width reader = .ok n (reader.skip width) := by
  rw [number_front h (LittleEndian.length_encode width n), LittleEndian.decode_encode_of_lt fits]

theorem u16_front {reader : Reader} {n : UInt16} {rest : Bytes}
    (h : reader.arriving = LittleEndian.encode 2 n.toNat ++ rest) :
    u16 reader = .ok n (reader.skip 2) := by
  unfold u16
  rw [map_ok (number_encode_front h n.toNat_lt), UInt16.ofNat_toNat]

theorem u32_front {reader : Reader} {n : UInt32} {rest : Bytes}
    (h : reader.arriving = LittleEndian.encode 4 n.toNat ++ rest) :
    u32 reader = .ok n (reader.skip 4) := by
  unfold u32
  rw [map_ok (number_encode_front h n.toNat_lt), UInt32.ofNat_toNat]

theorem u64_front {reader : Reader} {n : UInt64} {rest : Bytes}
    (h : reader.arriving = LittleEndian.encode 8 n.toNat ++ rest) :
    u64 reader = .ok n (reader.skip 8) := by
  unfold u64
  rw [map_ok (number_encode_front h n.toNat_lt), UInt64.ofNat_toNat]

theorem u32_short {reader : Reader} {rest : Bytes} (h : reader.arriving = rest)
    (hl : rest.length < 4) :
    u32 reader = .error (failure 4 rest.length reader.ending) reader.drain :=
  map_error (number_short h hl)

theorem u8_front {reader : Reader} {byte : UInt8} {rest : Bytes}
    (h : reader.arriving = byte :: rest) : u8 reader = .ok byte (reader.skip 1) := by
  have hcons : reader.arriving = [byte] ++ rest := h
  have hn : number 1 reader = .ok (LittleEndian.decode [byte]) (reader.skip 1) :=
    number_front hcons rfl
  unfold u8
  rw [map_ok hn]
  simp [LittleEndian.decode]

theorem u8_short {reader : Reader} (h : reader.arriving = []) :
    u8 reader = .error (failure 1 0 reader.ending) reader.drain :=
  map_error (number_short h (by decide))

/-! ### Compact sizes -/

open CompactSize (tailWidth valueOf size)

theorem compactSize_none {reader : Reader} (h : reader.arriving = []) :
    compactSize reader = .error (failure 1 0 reader.ending) reader.drain := by
  unfold compactSize
  rw [bind_error (u8_short h)]

/-- The first byte announces more than arrives. -/
theorem compactSize_cut {reader : Reader} {first : UInt8} {rest : Bytes}
    (h : reader.arriving = first :: rest) (hl : rest.length < tailWidth first) :
    compactSize reader =
      .error (failure (tailWidth first) rest.length reader.ending) reader.drain := by
  have h1 : 1 ≤ reader.arriving.length := by simp [h]
  have hcons : reader.arriving = [first] ++ rest := h
  have hrest : (reader.skip 1).arriving = rest := arriving_skip hcons rfl
  have hw : tailWidth first ≠ 0 := by omega
  have htail := number_short hrest hl
  rw [ending_skip h1, drain_skip h1] at htail
  unfold compactSize
  rw [bind_ok (u8_front h), if_neg hw, bind_error htail]

/-- A first byte and all that it announces. -/
theorem compactSize_form {reader : Reader} {first : UInt8} {tail rest : Bytes}
    (h : reader.arriving = first :: (tail ++ rest)) (hl : tail.length = tailWidth first) :
    compactSize reader =
      if size (valueOf first tail) < 1 + tailWidth first then
        .error (.nonCanonical (valueOf first tail) (1 + tailWidth first))
          (reader.skip (1 + tailWidth first))
      else .ok (valueOf first tail) (reader.skip (1 + tailWidth first)) := by
  have hcons : reader.arriving = [first] ++ (tail ++ rest) := h
  have hrest : (reader.skip 1).arriving = tail ++ rest := arriving_skip hcons rfl
  unfold compactSize
  rw [bind_ok (u8_front h)]
  by_cases hw : tailWidth first = 0
  · have ht : tail = [] := by rw [← List.length_eq_zero_iff, hl, hw]
    rw [if_pos hw, if_neg (by have := CompactSize.size_pos (valueOf first tail); omega), hw, ht]
    rfl
  · have hne : tail ≠ [] := by
      intro he
      exact hw (by rw [← hl, he]; rfl)
    have hv : valueOf first tail = UInt64.ofNat (LittleEndian.decode tail) := if_neg hne
    rw [if_neg hw, bind_ok (number_front hrest hl), skip_skip]
    have hiff := CompactSize.size_lt_iff first tail hl hw
    by_cases hs : LittleEndian.decode tail < CompactSize.leastOf (tailWidth first)
    · rw [if_pos hs, if_pos (hiff.mpr hs), hv, Nat.add_comm (tailWidth first)]
      rfl
    · rw [if_neg hs, if_neg (mt hiff.mp hs), hv]
      rfl

theorem compactSize_front {reader : Reader} {value : UInt64} {rest : Bytes}
    (h : reader.arriving = CompactSize.encode value ++ rest) :
    compactSize reader = .ok value (reader.skip (size value)) := by
  obtain ⟨first, tail, he, hl, hv, hs⟩ := CompactSize.exists_valueOf value
  rw [he, List.cons_append] at h
  rw [compactSize_form h hl, hv, hs, if_neg (Nat.lt_irrefl _)]

end Reader
end Gossip.Stream
