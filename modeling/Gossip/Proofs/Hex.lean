import Gossip.Bytes.Hex
import Gossip.Proofs.Text.Utf8

/-! Hexadecimal text and what is read from it.

The digits of a byte string are ASCII, so the reader finds them byte by byte in the UTF-8 form of
the text, and reads the byte string from them (`decode_encode`).

A text is read if it has as many bytes as are wanted and all of them are digits, and then it is the
text of what is read from it, but for the case of the letters (`decode_digits`). Every other text
has one of three faults: its bytes are odd in number, or not as many as are wanted, or one of them
is no digit (`decode_odd`, `decode_wrong_length`, `decode_other`). -/
namespace Gossip.Hex

/-! ### Texts that were written -/

/-- A digit as a byte. -/
def code (d : Nat) : UInt8 := UInt8.ofNat (Nat.digitChar d).toNat

theorem utf8EncodeChar_digitChar {d : Nat} (h : d < 16) :
    String.utf8EncodeChar (Nat.digitChar d) = [code d] := by
  have : ∀ d < 16, String.utf8EncodeChar (Nat.digitChar d) = [code d] := by decide
  exact this d h

theorem value?_code {d : Nat} (h : d < 16) : value? (code d) = some (UInt8.ofNat d) := by
  have : ∀ d < 16, value? (code d) = some (UInt8.ofNat d) := by decide
  exact this d h

theorem high_lt (byte : UInt8) : byte.toNat / 16 < 16 := by
  have := byte.toNat_lt
  omega

theorem low_lt (byte : UInt8) : byte.toNat % 16 < 16 := Nat.mod_lt _ (by decide)

theorem ofNat_pair (high low : Nat) :
    UInt8.ofNat high * 16 + UInt8.ofNat low = UInt8.ofNat (high * 16 + low) := by
  rw [UInt8.ofNat_add, UInt8.ofNat_mul]
  rfl

/-- A byte is put together from what its digits are worth. -/
theorem ofNat_digits (byte : UInt8) :
    UInt8.ofNat (byte.toNat / 16) * 16 + UInt8.ofNat (byte.toNat % 16) = byte := by
  have hparts : byte.toNat / 16 * 16 + byte.toNat % 16 = byte.toNat := by omega
  rw [ofNat_pair, hparts, UInt8.ofNat_toNat]

theorem utf8_encode (bytes : Bytes) :
    Text.utf8 (encode bytes) =
      bytes.flatMap fun byte => [code (byte.toNat / 16), code (byte.toNat % 16)] := by
  rw [encode, Text.utf8_ofList, digits, List.flatMap_assoc]
  refine congrArg bytes.flatMap (funext fun byte => ?_)
  simp [utf8EncodeChar_digitChar (high_lt byte), utf8EncodeChar_digitChar (low_lt byte)]

theorem length_utf8_encode (bytes : Bytes) :
    (Text.utf8 (encode bytes)).length = 2 * bytes.length := by
  rw [utf8_encode]
  induction bytes with
  | nil => rfl
  | cons byte bytes ih =>
    simp only [List.flatMap_cons, List.length_append, ih, List.length_cons, List.length_nil]
    omega

theorem readPairs_utf8_encode (position : Nat) (bytes : Bytes) :
    readPairs position (Text.utf8 (encode bytes)) = .ok bytes := by
  rw [utf8_encode]
  induction bytes generalizing position with
  | nil => rfl
  | cons byte bytes ih =>
    simp only [List.flatMap_cons, List.cons_append, List.nil_append, readPairs,
      value?_code (high_lt byte), value?_code (low_lt byte), ih, ofNat_digits]

section
variable {width : Nat} {text : String} (hlength : (Text.utf8 text).length = 2 * width)
include hlength

/-- A text of the wanted length is read as its pairs of digits are. -/
theorem decode_of_readPairs_ok {bytes : Bytes} (hread : readPairs 0 (Text.utf8 text) = .ok bytes) :
    ∃ octets, decode width text = .ok octets ∧ octets.bytes = bytes := by
  have hwidth : bytes.length = width := by
    rw [length_readPairs hread]
    omega
  refine ⟨⟨bytes, hwidth⟩, ?_, rfl⟩
  simp only [decode]
  rw [if_neg (by omega), dif_pos hlength]
  split
  · rename_i fault hfault
    cases hfault.symm.trans hread
  · rename_i found hfound
    cases hfound.symm.trans hread
    rfl

theorem decode_of_readPairs_error {fault : Fault}
    (hread : readPairs 0 (Text.utf8 text) = .error fault) : decode width text = .error fault := by
  simp only [decode]
  rw [if_neg (by omega), dif_pos hlength]
  split
  · rename_i found hfound
    cases hfound.symm.trans hread
    rfl
  · rename_i bytes hbytes
    cases hbytes.symm.trans hread

end

/-- The text of some bytes is read as them. -/
theorem decode_encode {width : Nat} (octets : Octets width) :
    decode width (encode octets.bytes) = .ok octets := by
  have hlength : (Text.utf8 (encode octets.bytes)).length = 2 * width := by
    rw [length_utf8_encode, octets.length_eq]
  obtain ⟨found, hread, hbytes⟩ :=
    decode_of_readPairs_ok hlength (readPairs_utf8_encode 0 octets.bytes)
  rw [hread, Octets.ext hbytes]

/-! ### Digits of either case -/

theorem toNat_le_of_isHexDigit {c : Char} (h : c.isHexDigit = true) : c.toNat ≤ 0x7F := by
  have hle : c.val ≤ 'f'.val := by
    simp only [Char.isHexDigit, Char.isDigit, Bool.or_eq_true, Bool.and_eq_true,
      decide_eq_true_eq] at h
    obtain (⟨-, h⟩ | ⟨-, h⟩) | ⟨-, h⟩ := h
    · exact UInt32.le_trans h (by decide)
    · exact h
    · exact UInt32.le_trans h (by decide)
  exact Nat.le_trans (UInt32.le_iff_toNat_le.mp hle) (by decide)

/-- A digit is worth what the same digit in lower case is written for. -/
theorem value?_digit {code : UInt8} (h : (Char.ofNat code.toNat).isHexDigit = true) :
    ∃ d < 16, value? code = some (UInt8.ofNat d) ∧
      Nat.digitChar d = (Char.ofNat code.toNat).toLower := by
  have hall : ∀ n < 256, (Char.ofNat n).isHexDigit = true → ∃ d < 16,
      value? (UInt8.ofNat n) = some (UInt8.ofNat d) ∧
        Nat.digitChar d = (Char.ofNat n).toLower := by decide +kernel
  have hcode := hall code.toNat code.toNat_lt h
  rwa [UInt8.ofNat_toNat] at hcode

theorem value?_other {code : UInt8} (h : ¬ (Char.ofNat code.toNat).isHexDigit = true) :
    value? code = none := by
  have hall : ∀ n < 256, ¬ (Char.ofNat n).isHexDigit = true → value? (UInt8.ofNat n) = none := by
    decide +kernel
  have hcode := hall code.toNat code.toNat_lt h
  rwa [UInt8.ofNat_toNat] at hcode

/-! ### Pairs of digits -/

/-- The digits of a byte that is put together from two. -/
theorem digits_cons {h l : Nat} (hh : h < 16) (hl : l < 16) (bytes : Bytes) :
    digits ((UInt8.ofNat h * 16 + UInt8.ofNat l) :: bytes) =
      Nat.digitChar h :: Nat.digitChar l :: digits bytes := by
  have hbyte : (UInt8.ofNat h * 16 + UInt8.ofNat l).toNat = h * 16 + l := by
    rw [ofNat_pair, UInt8.toNat_ofNat_of_lt' (show h * 16 + l < 256 by omega)]
  have hhigh : (h * 16 + l) / 16 = h := by omega
  have hlow : (h * 16 + l) % 16 = l := by omega
  rw [digits, List.flatMap_cons, hbyte, hhigh, hlow]
  rfl

/-- An even number of digits is read, and written again in lower case. -/
theorem readPairs_digits (position : Nat) : ∀ codes : Bytes, codes.length % 2 = 0 →
    (∀ code ∈ codes, (Char.ofNat code.toNat).isHexDigit = true) →
    ∃ bytes, readPairs position codes = .ok bytes ∧
      digits bytes = codes.map fun code => (Char.ofNat code.toNat).toLower
  | [], _, _ => ⟨[], rfl, rfl⟩
  | [_], hlength, _ => by simp at hlength
  | high :: low :: codes, hlength, hdigits => by
    obtain ⟨hhigh, htail⟩ := List.forall_mem_cons.mp hdigits
    obtain ⟨hlow, hrest⟩ := List.forall_mem_cons.mp htail
    obtain ⟨h, hh, hhvalue, hhchar⟩ := value?_digit hhigh
    obtain ⟨l, hl, hlvalue, hlchar⟩ := value?_digit hlow
    have heven : codes.length % 2 = 0 := by
      rw [List.length_cons, List.length_cons] at hlength
      omega
    obtain ⟨bytes, hread, hbytes⟩ := readPairs_digits (position + 2) codes heven hrest
    refine ⟨(UInt8.ofNat h * 16 + UInt8.ofNat l) :: bytes, ?_, ?_⟩
    · simp only [readPairs, hhvalue, hlvalue, hread]
    · rw [digits_cons hh hl, hhchar, hlchar, hbytes]
      rfl

/-- The first byte that is no digit is reported by its position, counted from the first byte. -/
theorem readPairs_other {code : UInt8} (rest : Bytes)
    (hcode : ¬ (Char.ofNat code.toNat).isHexDigit = true) (position : Nat) : ∀ front : Bytes,
    (front ++ code :: rest).length % 2 = 0 →
    (∀ digit ∈ front, (Char.ofNat digit.toNat).isHexDigit = true) →
    readPairs position (front ++ code :: rest) =
      .error (.invalidDigit code (position + front.length))
  | [], hlength, _ => by
    cases rest with
    | nil => simp at hlength
    | cons low rest => simp only [List.nil_append, readPairs, value?_other hcode]; rfl
  | [high], _, hfront => by
    obtain ⟨h, -, hvalue, -⟩ := value?_digit (hfront high (List.mem_cons_self ..))
    simp only [List.cons_append, List.nil_append, readPairs, hvalue, value?_other hcode]
    rfl
  | high :: low :: front, hlength, hfront => by
    obtain ⟨hhigh, htail⟩ := List.forall_mem_cons.mp hfront
    obtain ⟨hlow, hrest⟩ := List.forall_mem_cons.mp htail
    obtain ⟨h, -, hhvalue, -⟩ := value?_digit hhigh
    obtain ⟨l, -, hlvalue, -⟩ := value?_digit hlow
    have heven : (front ++ code :: rest).length % 2 = 0 := by
      rw [List.cons_append, List.cons_append, List.length_cons, List.length_cons] at hlength
      omega
    have hread := readPairs_other rest hcode (position + 2) front heven hrest
    simp only [List.cons_append, readPairs, hhvalue, hlvalue, hread]
    rw [List.length_cons, List.length_cons, Nat.add_assoc, Nat.add_comm 2, Nat.add_assoc]

/-! ### Texts -/

/-- All characters of the text are digits, in either case. -/
def AllDigits (text : String) : Prop := ∀ c ∈ text.toList, c.isHexDigit = true

-- Named, as there is another way to decide it: to try every character there is.
instance : DecidablePred AllDigits := fun _ => List.decidableBAll _ _

theorem allDigits_iff (text : String) : AllDigits text ↔
    ∀ code ∈ Text.utf8 text, (Char.ofNat code.toNat).isHexDigit = true :=
  (Text.all_utf8_iff (fun _ => toNat_le_of_isHexDigit) text).symm

theorem exists_other {text : String} (h : ¬ AllDigits text) :
    ∃ front code rest, Text.utf8 text = front ++ code :: rest ∧
      (∀ digit ∈ front, (Char.ofNat digit.toNat).isHexDigit = true) ∧
      ¬ (Char.ofNat code.toNat).isHexDigit = true := by
  rw [allDigits_iff] at h
  cases hfind : (Text.utf8 text).find? fun code => !(Char.ofNat code.toNat).isHexDigit with
  | none => exact (h (by simpa using List.find?_eq_none.mp hfind)).elim
  | some code =>
    obtain ⟨hcode, front, rest, htext, hfront⟩ := List.find?_eq_some_iff_append.mp hfind
    simp only [Bool.not_eq_true', Bool.not_not] at hcode hfront
    exact ⟨front, code, rest, htext, hfront, Bool.eq_false_iff.mp hcode⟩

/-! ### What is read -/

variable {width : Nat} {text : String}

theorem decode_odd (h : (Text.utf8 text).length % 2 = 1) :
    decode width text = .error .oddLength :=
  if_pos h

theorem decode_wrong_length (heven : (Text.utf8 text).length % 2 ≠ 1)
    (h : (Text.utf8 text).length ≠ 2 * width) : decode width text = .error .wrongLength := by
  simp only [decode]
  rw [if_neg heven, dif_neg h]

/-- Digits are read, and written again in lower case. -/
theorem decode_digits (hlength : (Text.utf8 text).length = 2 * width) (hdigits : AllDigits text) :
    ∃ octets, decode width text = .ok octets ∧ encode octets.bytes = text.toLower := by
  have heven : (Text.utf8 text).length % 2 = 0 := by omega
  obtain ⟨bytes, hread, hbytes⟩ :=
    readPairs_digits 0 (Text.utf8 text) heven ((allDigits_iff text).mp hdigits)
  have hchars : (Text.utf8 text).map (fun code => (Char.ofNat code.toNat).toLower) =
      text.toList.map Char.toLower := by
    rw [← Text.map_utf8 fun c hc => toNat_le_of_isHexDigit (hdigits c hc), List.map_map]
    rfl
  obtain ⟨octets, hdecode, rfl⟩ := decode_of_readPairs_ok hlength hread
  refine ⟨octets, hdecode, ?_⟩
  rw [encode, hbytes, hchars]
  exact String.toList_inj.mp (by rw [String.toList_ofList, Text.toList_toLower])

/-- The first byte that is no digit is reported. -/
theorem decode_other {code : UInt8} {front rest : Bytes}
    (hlength : (Text.utf8 text).length = 2 * width) (htext : Text.utf8 text = front ++ code :: rest)
    (hfront : ∀ digit ∈ front, (Char.ofNat digit.toNat).isHexDigit = true)
    (hcode : ¬ (Char.ofNat code.toNat).isHexDigit = true) :
    decode width text = .error (.invalidDigit code front.length) := by
  have heven : (front ++ code :: rest).length % 2 = 0 := by
    rw [← htext]
    omega
  have hread := readPairs_other rest hcode 0 front heven hfront
  rw [← htext, Nat.zero_add] at hread
  exact decode_of_readPairs_error hlength hread

end Gossip.Hex
