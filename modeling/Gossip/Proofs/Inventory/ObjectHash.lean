import Gossip.Inventory.ObjectHash
import Gossip.Proofs.Hex

/-! Hashes and their texts.

The text of a hash is sixty-four digits in lower case, the last byte of the wire first, and the hash
is read back from it (`parse_text`). A text is read exactly if it is sixty-four digits in any case,
and the hash that is read has it as its text, but for the case (`text_decides`). -/
namespace Gossip

namespace Hex

theorem length_digits (bytes : Bytes) : (digits bytes).length = 2 * bytes.length := by
  induction bytes with
  | nil => rfl
  | cons byte bytes ih =>
    rw [digits, List.flatMap_cons, List.length_append, ← digits, ih, List.length_cons]
    simp only [List.length_cons, List.length_nil]
    omega

/-- The digits of a byte stand at twice its place. -/
theorem getElem?_digits {bytes : Bytes} {i : Nat} {byte : UInt8} (h : bytes[i]? = some byte) :
    (digits bytes)[2 * i]? = some (Nat.digitChar (byte.toNat / 16)) ∧
      (digits bytes)[2 * i + 1]? = some (Nat.digitChar (byte.toNat % 16)) := by
  induction bytes generalizing i with
  | nil => cases h
  | cons first bytes ih =>
    cases i with
    | zero =>
      cases h
      exact ⟨rfl, rfl⟩
    | succ i => exact ih h

theorem mem_digits {bytes : Bytes} {c : Char} (h : c ∈ digits bytes) :
    c ∈ "0123456789abcdef".toList := by
  have hall : ∀ d < 16, Nat.digitChar d ∈ "0123456789abcdef".toList := by decide
  obtain ⟨byte, -, hc⟩ := List.mem_flatMap.mp h
  simp only [List.mem_cons, List.not_mem_nil, or_false] at hc
  rcases hc with rfl | rfl
  · exact hall _ (high_lt byte)
  · exact hall _ (low_lt byte)

end Hex

namespace ObjectHash

theorem parse_text (hash : ObjectHash) : parse hash.text = .ok hash := by
  rw [parse, text, Hex.decode_encode]
  simp only [Octets.reverse_reverse]

theorem text_inj {a b : ObjectHash} : a.text = b.text ↔ a = b := by
  refine ⟨fun h => ?_, congrArg text⟩
  have hread := parse_text a
  rw [h, parse_text b] at hread
  exact (Except.ok.inj hread).symm

theorem toList_text (hash : ObjectHash) : hash.text.toList = Hex.digits hash.bytes.reverse :=
  String.toList_ofList

theorem length_text (hash : ObjectHash) : hash.text.toList.length = 64 := by
  rw [toList_text, Hex.length_digits, List.length_reverse]
  exact congrArg (2 * ·) hash.octets.length_eq

/-- The first byte of a text is the last of the wire. -/
theorem getElem?_text (hash : ObjectHash) {i : Nat} (h : i < 32) :
    ∃ byte, hash.bytes[31 - i]? = some byte ∧
      hash.text.toList[2 * i]? = some (Nat.digitChar (byte.toNat / 16)) ∧
      hash.text.toList[2 * i + 1]? = some (Nat.digitChar (byte.toNat % 16)) := by
  have hlength : hash.bytes.length = 32 := hash.octets.length_eq
  have hplace : 31 - i < hash.bytes.length := by omega
  have hreverse : hash.bytes.reverse[i]? = some hash.bytes[31 - i] := by
    rw [List.getElem?_reverse (by omega), hlength]
    exact List.getElem?_eq_getElem hplace
  refine ⟨hash.bytes[31 - i], List.getElem?_eq_getElem hplace, ?_⟩
  rw [toList_text]
  exact Hex.getElem?_digits hreverse

/-- Every text is read or refused as its digits are; the order of the bytes has no say in it. -/
theorem parse_decides (text : String) :
    if (Text.utf8 text).length % 2 = 1 then parse text = .error .oddLength
    else if (Text.utf8 text).length ≠ 64 then parse text = .error .wrongLength
    else if Hex.AllDigits text then
      ∃ hash, parse text = .ok hash ∧ hash.text = text.toLower
    else
      ∃ front code rest, Text.utf8 text = front ++ code :: rest ∧
        (∀ digit ∈ front, (Char.ofNat digit.toNat).isHexDigit = true) ∧
        ¬ (Char.ofNat code.toNat).isHexDigit = true ∧
        parse text = .error (.invalidDigit code front.length) := by
  by_cases hodd : (Text.utf8 text).length % 2 = 1
  · rw [if_pos hodd, parse, Hex.decode_odd hodd]
  rw [if_neg hodd]
  by_cases hlength : (Text.utf8 text).length = 64
  · rw [if_neg (not_not_intro hlength)]
    by_cases hdigits : Hex.AllDigits text
    · obtain ⟨octets, hread, htext⟩ : ∃ octets : Octets 32, Hex.decode 32 text = .ok octets ∧
          Hex.encode octets.bytes = text.toLower := Hex.decode_digits hlength hdigits
      rw [if_pos hdigits]
      refine ⟨⟨octets.reverse⟩, by rw [parse, hread], ?_⟩
      rw [ObjectHash.text, Octets.reverse_reverse, htext]
    · obtain ⟨front, code, rest, htext, hfront, hcode⟩ := Hex.exists_other hdigits
      rw [if_neg hdigits]
      exact ⟨front, code, rest, htext, hfront, hcode, by
        rw [parse, Hex.decode_other hlength htext hfront hcode]⟩
  · rw [if_pos hlength, parse, Hex.decode_wrong_length hodd hlength]

theorem exists_parse_iff (text : String) : (∃ hash, parse text = .ok hash) ↔
    (Text.utf8 text).length = 64 ∧ Hex.AllDigits text := by
  have hdecides := parse_decides text
  constructor
  · rintro ⟨hash, hread⟩
    rw [hread] at hdecides
    split at hdecides
    · cases hdecides
    split at hdecides
    · cases hdecides
    rename_i hlength
    split at hdecides
    · rename_i hdigits
      exact ⟨Decidable.not_not.mp hlength, hdigits⟩
    · obtain ⟨_, _, _, _, _, _, herror⟩ := hdecides
      cases herror
  · rintro ⟨hlength, hdigits⟩
    rw [if_neg (by omega), if_neg (not_not_intro hlength), if_pos hdigits] at hdecides
    obtain ⟨hash, hread, -⟩ := hdecides
    exact ⟨hash, hread⟩

/-- The hash that is read from a text has this text, in lower case. -/
theorem text_of_parse {text : String} {hash : ObjectHash} (h : parse text = .ok hash) :
    hash.text = text.toLower := by
  obtain ⟨hlength, hdigits⟩ := (exists_parse_iff text).mp ⟨hash, h⟩
  have hdecides := parse_decides text
  rw [if_neg (by omega), if_neg (not_not_intro hlength), if_pos hdigits] at hdecides
  obtain ⟨found, hread, htext⟩ := hdecides
  rw [h] at hread
  cases hread
  exact htext

/-- Of sixty-four digits it makes no difference whether bytes or characters are counted. -/
theorem exists_parse_ofList_iff (chars : List Char) :
    (∃ hash, parse (String.ofList chars) = .ok hash) ↔
      chars.length = 64 ∧ ∀ c ∈ chars, c.isHexDigit = true := by
  have hall : Hex.AllDigits (String.ofList chars) ↔ ∀ c ∈ chars, c.isHexDigit = true := by
    rw [Hex.AllDigits, String.toList_ofList]
  rw [exists_parse_iff, hall, and_congr_left_iff]
  intro hchars
  have hmap := Text.map_utf8 fun c hc => Hex.toNat_le_of_isHexDigit (hall.mpr hchars c hc)
  rw [String.toList_ofList] at hmap
  rw [← congrArg List.length hmap, List.length_map]

/-- A hash is read from its own text and from no other, but for the case. -/
theorem parse_ofList_eq_ok_iff (chars : List Char) (hash : ObjectHash) :
    parse (String.ofList chars) = .ok hash ↔
      chars.length = 64 ∧ (∀ c ∈ chars, c.isHexDigit = true) ∧
        hash.text.toList = chars.map Char.toLower := by
  have hlower {found : ObjectHash} (h : parse (String.ofList chars) = .ok found) :
      found.text.toList = chars.map Char.toLower := by
    rw [text_of_parse h, Text.toList_toLower, String.toList_ofList]
  constructor
  · intro h
    obtain ⟨hcount, hchars⟩ := (exists_parse_ofList_iff chars).mp ⟨hash, h⟩
    exact ⟨hcount, hchars, hlower h⟩
  · rintro ⟨hcount, hchars, htext⟩
    obtain ⟨found, hread⟩ := (exists_parse_ofList_iff chars).mpr ⟨hcount, hchars⟩
    have hsame : found.text = hash.text := String.toList_inj.mp ((hlower hread).trans htext.symm)
    rw [hread, text_inj.mp hsame]

/-- **A hash and its text.** The text is sixty-four digits in lower case, a pair for each byte, the
last byte of the wire first; the hash is read back from it. Any other text is read if it is such a
text but for the case of its letters, which is lost, and refused for the first of three faults. -/
theorem text_decides :
    (∀ hash : ObjectHash, parse hash.text = .ok hash ∧ hash.text.toList.length = 64 ∧
      (∀ c ∈ hash.text.toList, c ∈ "0123456789abcdef".toList) ∧
      ∀ i < 32, ∃ byte, hash.bytes[31 - i]? = some byte ∧
        hash.text.toList[2 * i]? = some (Nat.digitChar (byte.toNat / 16)) ∧
        hash.text.toList[2 * i + 1]? = some (Nat.digitChar (byte.toNat % 16))) ∧
    (∀ text, (∃ hash, parse text = .ok hash) ↔
      (Text.utf8 text).length = 64 ∧ Hex.AllDigits text) ∧
    (∀ text, if (Text.utf8 text).length % 2 = 1 then parse text = .error .oddLength
      else if (Text.utf8 text).length ≠ 64 then parse text = .error .wrongLength
      else if Hex.AllDigits text then
        ∃ hash, parse text = .ok hash ∧ hash.text = text.toLower
      else
        ∃ front code rest, Text.utf8 text = front ++ code :: rest ∧
          (∀ digit ∈ front, (Char.ofNat digit.toNat).isHexDigit = true) ∧
          ¬ (Char.ofNat code.toNat).isHexDigit = true ∧
          parse text = .error (.invalidDigit code front.length)) ∧
    ∀ a b x y, parse a = .ok x → parse b = .ok y → (x = y ↔ a.toLower = b.toLower) := by
  refine ⟨fun hash => ⟨hash.parse_text, hash.length_text, fun c hc => ?digits,
    fun i => hash.getElem?_text⟩, exists_parse_iff, parse_decides, fun a b x y hx hy => ?case⟩
  case digits =>
    rw [toList_text] at hc
    exact Hex.mem_digits hc
  case case =>
    rw [← text_of_parse hx, ← text_of_parse hy, text_inj]

/-- The text of a hash in lower case, and the same digits with capital letters: both are read, and
as the same hash. -/
theorem text_decides_capitals :
    let lower := "000000000019d6689c085ae165831e934ff763ae46a2a6c172b3f1b60a8ce26f"
    let capital := "000000000019D6689C085AE165831E934FF763AE46A2A6C172B3F1B60A8CE26F"
    ∃ x y, parse lower = .ok x ∧ parse capital = .ok y ∧ lower.toLower = capital.toLower ∧
      x = y := by
  intro lower capital
  have hread (text : String)
      (h : text.toList.length = 64 ∧ text.toList.all Char.isHexDigit = true) :
      ∃ hash, parse text = .ok hash := by
    rw [← String.ofList_toList (s := text)]
    exact (exists_parse_ofList_iff text.toList).mpr ⟨h.1, List.all_eq_true.mp h.2⟩
  obtain ⟨x, hx⟩ := hread lower (by decide)
  obtain ⟨y, hy⟩ := hread capital (by decide)
  have hlower : lower.toLower = capital.toLower := by
    rw [← String.toList_inj, Text.toList_toLower, Text.toList_toLower]
    decide
  exact ⟨x, y, hx, hy, hlower, (text_decides.2.2.2 lower capital x y hx hy).mpr hlower⟩

end ObjectHash
end Gossip
