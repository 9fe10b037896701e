import Gossip.Text.Numeral

/-! Numerals are read back.

The digits of a number in any base up to sixteen, with any number of zeros before them, are read as
the number (`readDigits_toDigits`, `readDigits_hexadecimal`). So hexadecimal text of a given least
width tells numbers of 32 bits apart (`lowerHex_inj`).

In the other direction a text that is read is one or more digits behind at most one plus sign, and
what is read is the number that they stand for (`read_eq_ok_iff`). -/
namespace Gossip.Text.Numeral

theorem digit?_digitChar {base d : Nat} (h : d < base) (hbase : base ≤ 16) :
    digit? base (Nat.digitChar d) = some d := by
  -- The value of a character does not depend on the base, only whether it counts does.
  have hsixteen : ∀ d < 16, digit? 16 (Nat.digitChar d) = some d := by decide
  have hd := hsixteen d (Nat.lt_of_lt_of_le h hbase)
  rw [digit?, Option.ite_none_right_eq_some] at hd ⊢
  obtain ⟨-, hvalue⟩ := hd
  rw [Option.some_inj] at hvalue
  exact ⟨by rw [hvalue]; exact h, by rw [hvalue]⟩

/-- One digit more. -/
theorem readDigits_digitChar {base value d : Nat} (rest : List Char) (h : d < base)
    (hbase : base ≤ 16) (hfits : value * base + d < UInt32.size) :
    readDigits base value (Nat.digitChar d :: rest) = readDigits base (value * base + d) rest := by
  simp only [readDigits, digit?_digitChar h hbase, if_pos hfits]

theorem readDigits_append {base value read : Nat} {front : List Char} (rest : List Char)
    (h : readDigits base value front = .ok read) :
    readDigits base value (front ++ rest) = readDigits base read rest := by
  induction front generalizing value with
  | nil =>
    cases h
    rfl
  | cons c front ih =>
    simp only [readDigits] at h
    simp only [List.cons_append, readDigits]
    cases hdigit : digit? base c with
    | none =>
      simp only [hdigit] at h
      cases h
    | some digit =>
      simp only [hdigit] at h ⊢
      split at h
      · rename_i hfits
        rw [if_pos hfits]
        exact ih h
      · cases h

theorem readDigits_zeros {base : Nat} (count : Nat) (h : 1 < base) (hbase : base ≤ 16) :
    readDigits base 0 (List.replicate count '0') = .ok 0 := by
  induction count with
  | zero => rfl
  | succ count ih =>
    have hzero := @readDigits_digitChar base 0 0 (List.replicate count '0') (by omega) hbase
      (by rw [Nat.zero_mul]; decide)
    rw [Nat.zero_mul] at hzero
    exact hzero.trans ih

/-- By induction on the number: its last digit is read after those of the number without it. -/
theorem readDigits_toDigits {base n : Nat} (h : 1 < base) (hbase : base ≤ 16)
    (hn : n < UInt32.size) : readDigits base 0 (Nat.toDigits base n) = .ok n := by
  induction n using Nat.strongRecOn with
  | ind n ih =>
    by_cases hsmall : n < base
    · rw [Nat.toDigits_of_lt_base hsmall,
        readDigits_digitChar [] hsmall hbase (by rw [Nat.zero_mul, Nat.zero_add]; exact hn),
        Nat.zero_mul, Nat.zero_add]
      rfl
    · have hless : n / base < n := Nat.div_lt_self (by omega) h
      have hparts : n / base * base + n % base = n := Nat.div_add_mod' n base
      rw [Nat.toDigits_of_base_le h (Nat.le_of_not_lt hsmall),
        readDigits_append _ (ih _ hless (Nat.lt_trans hless hn)),
        readDigits_digitChar [] (Nat.mod_lt n (by omega)) hbase (by rw [hparts]; exact hn), hparts]
      rfl

/-- Zeros on the left make no difference. -/
theorem readDigits_hexadecimal (width : Nat) {n : Nat} (hn : n < UInt32.size) :
    readDigits 16 0 (hexadecimal width n) = .ok n := by
  rw [hexadecimal, readDigits_append _ (readDigits_zeros _ (by decide) (by decide)),
    readDigits_toDigits (by decide) (by decide) hn]

/-- What a digit is worth; letters count in either case. -/
def worth (c : Char) : Nat :=
  if c.isDigit then c.toNat - '0'.toNat
  else if 'a' ≤ c then c.toNat - 'a'.toNat + 10
  else c.toNat - 'A'.toNat + 10

/-- The number that digits stand for, behind those of another number. -/
def valueFrom (base before : Nat) (digits : List Char) : Nat :=
  digits.foldl (fun value c => value * base + worth c) before

/-- The number that digits stand for. -/
def value (base : Nat) (digits : List Char) : Nat := valueFrom base 0 digits

theorem digit?_eq_some_iff (c : Char) (d : Nat) :
    (digit? 10 c = some d ↔ c.isDigit = true ∧ worth c = d) ∧
      (digit? 16 c = some d ↔ c.isHexDigit = true ∧ worth c = d) := by
  have h0 : ('0' : Char).val.toNat = 48 := rfl
  have h9 : ('9' : Char).val.toNat = 57 := rfl
  have ha : ('a' : Char).val.toNat = 97 := rfl
  have hf : ('f' : Char).val.toNat = 102 := rfl
  have hA : ('A' : Char).val.toNat = 65 := rfl
  have hF : ('F' : Char).val.toNat = 70 := rfl
  -- All tests are on the number of the character.
  simp only [digit?, worth, Char.isDigit, Char.isHexDigit, Char.le_def,
    UInt32.le_iff_toNat_le, Option.ite_none_right_eq_some, Option.some_inj, Bool.and_eq_true,
    Bool.or_eq_true, decide_eq_true_eq, ge_iff_le, Char.toNat, h0, h9, ha, hf, hA, hF]
  generalize c.val.toNat = n
  constructor
  · grind
  · grind

theorem le_valueFrom {base : Nat} (hbase : 0 < base) (before : Nat) (digits : List Char) :
    before ≤ valueFrom base before digits := by
  induction digits generalizing before with
  | nil => exact Nat.le_refl before
  | cons c digits ih =>
    calc before ≤ before * base := Nat.le_mul_of_pos_right before hbase
      _ ≤ before * base + worth c := Nat.le_add_right ..
      _ ≤ valueFrom base before (c :: digits) := ih _

section
variable {base : Nat} {isDigit : Char → Bool}

/-- By induction on the digits. The value only grows, so that it fits all along if it does in the
end. -/
theorem readDigits_eq_ok_iff (hbase : 0 < base)
    (hdigit : ∀ c d, digit? base c = some d ↔ isDigit c = true ∧ worth c = d) {before n : Nat}
    (hbefore : before < UInt32.size) (digits : List Char) : readDigits base before digits = .ok n ↔
      (∀ c ∈ digits, isDigit c = true) ∧ valueFrom base before digits = n ∧ n < UInt32.size := by
  induction digits generalizing before with
  | nil =>
    simp only [readDigits, Except.ok.injEq, valueFrom, List.foldl_nil, List.not_mem_nil,
      false_implies, implies_true, true_and]
    exact ⟨fun h => ⟨h, h ▸ hbefore⟩, And.left⟩
  | cons c digits ih =>
    simp only [readDigits, List.forall_mem_cons]
    cases hc : digit? base c with
    | none =>
      refine iff_of_false (by simp) ?_
      rintro ⟨⟨hfirst, -⟩, -⟩
      have hsome := (hdigit c (worth c)).mpr ⟨hfirst, rfl⟩
      rw [hc] at hsome
      cases hsome
    | some d =>
      obtain ⟨hfirst, rfl⟩ := (hdigit c d).mp hc
      simp only [hfirst, true_and]
      split
      · rename_i hfits
        exact ih hfits
      · rename_i hlarge
        refine iff_of_false (by simp) ?_
        rintro ⟨-, hvalue, hn⟩
        exact hlarge (Nat.lt_of_le_of_lt (le_valueFrom hbase _ digits) (hvalue ▸ hn))

/-- One or more digits, and the 32-bit number that they stand for. -/
structure Spells (base : Nat) (isDigit : Char → Bool) (digits : List Char) (n : UInt32) :
    Prop where
  ne_nil : digits ≠ []
  isDigit : ∀ c ∈ digits, isDigit c = true
  value_eq : value base digits = n.toNat

theorem readDigits_spells (hbase : 0 < base)
    (hdigit : ∀ c d, digit? base c = some d ↔ isDigit c = true ∧ worth c = d) {digits : List Char}
    (hne : digits ≠ []) (n : UInt32) :
    (readDigits base 0 digits).map UInt32.ofNat = .ok n ↔ Spells base isDigit digits n := by
  have hiff {m : Nat} : readDigits base 0 digits = .ok m ↔ _ :=
    readDigits_eq_ok_iff hbase hdigit (by decide) digits
  constructor
  · intro h
    cases hread : readDigits base 0 digits with
    | error fault =>
      rw [hread] at h
      cases h
    | ok m =>
      rw [hread] at h
      cases h
      obtain ⟨hall, hvalue, hfits⟩ := hiff.mp hread
      exact ⟨hne, hall, by rw [UInt32.toNat_ofNat_of_lt' hfits]; exact hvalue⟩
  · rintro ⟨-, hall, hvalue⟩
    rw [hiff.mpr ⟨hall, hvalue, n.toNat_lt⟩]
    exact congrArg Except.ok (UInt32.ofNat_toNat ..)

theorem read_of_ne_plus {c : Char} (hc : c ≠ '+') (rest : List Char) :
    read base (c :: rest) = (readDigits base 0 (c :: rest)).map UInt32.ofNat := by
  rw [read]
  · exact List.cons_ne_nil c rest
  · exact fun h => hc (List.cons.inj h).1
  · exact fun digits h => hc (List.cons.inj h).1

/-- One plus sign is allowed. -/
theorem read_eq_ok_iff (hbase : 0 < base)
    (hdigit : ∀ c d, digit? base c = some d ↔ isDigit c = true ∧ worth c = d)
    (hplus : isDigit '+' = false) (chars : List Char) (n : UInt32) :
    read base chars = .ok n ↔ ∃ sign digits, chars = sign ++ digits ∧ (sign = [] ∨ sign = ['+']) ∧
      Spells base isDigit digits n := by
  have hspells {digits : List Char} (hne : digits ≠ []) :=
    readDigits_spells hbase hdigit hne n
  constructor
  · intro h
    unfold read at h
    split at h
    · cases h
    · cases h
    · rename_i digits hne
      exact ⟨['+'], digits, rfl, .inr rfl, (hspells (by rintro rfl; exact hne rfl)).mp h⟩
    · rename_i hne _ _
      exact ⟨[], _, rfl, .inl rfl, (hspells hne).mp h⟩
  · rintro ⟨sign, digits, rfl, rfl | rfl, h⟩
    · obtain ⟨c, rest, rfl⟩ := List.exists_cons_of_ne_nil h.ne_nil
      have hc : c ≠ '+' := by
        rintro rfl
        have hdigits := h.isDigit _ (List.mem_cons_self ..)
        rw [hplus] at hdigits
        cases hdigits
      exact (read_of_ne_plus hc rest).trans ((hspells h.ne_nil).mpr h)
    · obtain ⟨c, rest, rfl⟩ := List.exists_cons_of_ne_nil h.ne_nil
      exact (hspells h.ne_nil).mpr h

end

theorem read_ten_iff (chars : List Char) (n : UInt32) : read 10 chars = .ok n ↔
    ∃ sign digits, chars = sign ++ digits ∧ (sign = [] ∨ sign = ['+']) ∧
      Spells 10 Char.isDigit digits n :=
  read_eq_ok_iff (by decide) (fun c d => (digit?_eq_some_iff c d).1) (by decide) chars n

theorem read_sixteen_iff (chars : List Char) (n : UInt32) : read 16 chars = .ok n ↔
    ∃ sign digits, chars = sign ++ digits ∧ (sign = [] ∨ sign = ['+']) ∧
      Spells 16 Char.isHexDigit digits n :=
  read_eq_ok_iff (by decide) (fun c d => (digit?_eq_some_iff c d).2) (by decide) chars n

/-! ### Numbers as they are written -/

theorem mem_toDigits {base n : Nat} {c : Char} (hbase : 1 < base) (h : c ∈ Nat.toDigits base n) :
    ∃ d < base, c = Nat.digitChar d := by
  induction n using Nat.strongRecOn with
  | ind n ih =>
    by_cases hsmall : n < base
    · rw [Nat.toDigits_of_lt_base hsmall, List.mem_singleton] at h
      exact ⟨n, hsmall, h⟩
    · have hless : n / base < n := Nat.div_lt_self (by omega) hbase
      rw [Nat.toDigits_of_base_le hbase (Nat.le_of_not_lt hsmall), List.mem_append,
        List.mem_singleton] at h
      obtain h | h := h
      · exact ih _ hless h
      · exact ⟨n % base, Nat.mod_lt n (by omega), h⟩

/-- Digits are written in lower case. -/
theorem map_toLower_toDigits {base : Nat} (n : Nat) (h : 1 < base) (hbase : base ≤ 16) :
    (Nat.toDigits base n).map Char.toLower = Nat.toDigits base n := by
  have hall : ∀ d < 16, (Nat.digitChar d).toLower = Nat.digitChar d := by decide
  refine (List.map_congr_left fun c hc => ?_).trans (List.map_id _)
  obtain ⟨d, hd, rfl⟩ := mem_toDigits h hc
  exact hall d (Nat.lt_of_lt_of_le hd hbase)

theorem map_toLower_hexadecimal (width n : Nat) :
    (hexadecimal width n).map Char.toLower = hexadecimal width n := by
  simp only [hexadecimal, List.map_append, List.map_replicate,
    map_toLower_toDigits n (by decide : 1 < 16) (Nat.le_refl 16)]
  rfl

theorem spells_decimal (n : UInt32) : Spells 10 Char.isDigit (Nat.toDigits 10 n.toNat) n := by
  refine (readDigits_spells (by decide) (fun c d => (digit?_eq_some_iff c d).1)
    Nat.toDigits_ne_nil n).mp ?_
  rw [readDigits_toDigits (by decide) (by decide) n.toNat_lt]
  exact congrArg Except.ok (UInt32.ofNat_toNat ..)

theorem spells_hexadecimal (width : Nat) (n : UInt32) :
    Spells 16 Char.isHexDigit (hexadecimal width n.toNat) n := by
  have hne : hexadecimal width n.toNat ≠ [] :=
    List.append_ne_nil_of_right_ne_nil _ Nat.toDigits_ne_nil
  refine (readDigits_spells (by decide) (fun c d => (digit?_eq_some_iff c d).2) hne n).mp ?_
  rw [readDigits_hexadecimal width n.toNat_lt]
  exact congrArg Except.ok (UInt32.ofNat_toNat ..)

end Gossip.Text.Numeral
