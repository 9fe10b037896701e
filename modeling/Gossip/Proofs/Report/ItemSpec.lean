import Gossip.Proofs.Inventory.ObjectHash
import Gossip.Proofs.Text.Lines
import Gossip.Proofs.Text.Numeral
import Gossip.Report.ItemSpec

/-! Which specifications are read as items.

A specification is read if it has a colon, what stands before the first colon denotes a kind
(`Denotes`), and what stands behind it is the text of a hash, in any case. A kind is denoted by its
name, in any case, or by its tag; the names are those of kinds that their tags lead back to, so that
it makes no difference which is written (`grammar_exact`). -/
namespace Gossip.ItemSpec
open Text (Numeral.Spells Numeral.read_ten_iff Numeral.read_sixteen_iff)

/-! ### Kinds -/

/-- The kind that a word in lower case denotes, where the kinds have these names. -/
inductive Denotes (names : List (String × ObjectType)) : List Char → ObjectType → Prop where
  /-- A name denotes the kind that has it. -/
  | name {entry : String × ObjectType} : entry ∈ names → Denotes names entry.1.toList entry.2
  /-- A tag denotes the kind that it leads to. -/
  | decimal {sign digits : List Char} {tag : UInt32} : sign = [] ∨ sign = ['+'] →
    Numeral.Spells 10 Char.isDigit digits tag → Denotes names (sign ++ digits) (.ofTag tag)
  | hexadecimal {sign digits : List Char} {tag : UInt32} : sign = [] ∨ sign = ['+'] →
    Numeral.Spells 16 Char.isHexDigit digits tag →
    Denotes names ('0' :: 'x' :: (sign ++ digits)) (.ofTag tag)

theorem not_decimal_of_mark {rest sign digits : List Char} {tag : UInt32}
    (hsign : sign = [] ∨ sign = ['+']) (h : Numeral.Spells 10 Char.isDigit digits tag) :
    '0' :: 'x' :: rest ≠ sign ++ digits := by
  rintro heq
  obtain rfl | rfl := hsign
  · have hx : 'x' ∈ digits := by
      rw [List.nil_append] at heq
      rw [← heq]
      exact List.mem_cons_of_mem _ (List.mem_cons_self ..)
    exact absurd (h.isDigit 'x' hx) (by decide)
  · cases heq

/-- A tag is read in the notation that its mark calls for. -/
theorem parseTag_eq_ok_iff (word : List Char) (tag : UInt32) : parseTag word = .ok tag ↔
    ∃ sign digits, (sign = [] ∨ sign = ['+']) ∧
      (word = sign ++ digits ∧ Numeral.Spells 10 Char.isDigit digits tag ∨
        word = '0' :: 'x' :: (sign ++ digits) ∧ Numeral.Spells 16 Char.isHexDigit digits tag) := by
  unfold parseTag
  split
  · rename_i rest
    rw [Numeral.read_sixteen_iff]
    constructor
    · rintro ⟨sign, digits, rfl, hsign, h⟩
      exact ⟨sign, digits, hsign, .inr ⟨rfl, h⟩⟩
    · rintro ⟨sign, digits, hsign, ⟨heq, h⟩ | ⟨heq, h⟩⟩
      · exact (not_decimal_of_mark hsign h heq).elim
      · cases heq
        exact ⟨sign, digits, rfl, hsign, h⟩
  · rename_i word hmark
    rw [Numeral.read_ten_iff]
    constructor
    · rintro ⟨sign, digits, heq, hsign, h⟩
      exact ⟨sign, digits, hsign, .inl ⟨heq, h⟩⟩
    · rintro ⟨sign, digits, hsign, ⟨heq, h⟩ | ⟨heq, -⟩⟩
      · exact ⟨sign, digits, heq, hsign, h⟩
      · exact (hmark _ heq).elim

/-- A word denotes a kind by a name or by a tag. -/
theorem denotes_iff (word : List Char) (type : ObjectType) : Denotes typeNames word type ↔
    (∃ entry ∈ typeNames, entry.1.toList = word ∧ entry.2 = type) ∨
      ∃ tag, parseTag word = .ok tag ∧ ObjectType.ofTag tag = type := by
  constructor
  · rintro (hentry | ⟨hsign, h⟩ | ⟨hsign, h⟩)
    · exact .inl ⟨_, hentry, rfl, rfl⟩
    · exact .inr ⟨_, (parseTag_eq_ok_iff ..).mpr ⟨_, _, hsign, .inl ⟨rfl, h⟩⟩, rfl⟩
    · exact .inr ⟨_, (parseTag_eq_ok_iff ..).mpr ⟨_, _, hsign, .inr ⟨rfl, h⟩⟩, rfl⟩
  · rintro (⟨entry, hentry, rfl, rfl⟩ | ⟨tag, htag, rfl⟩)
    · exact .name hentry
    · obtain ⟨sign, digits, hsign, ⟨rfl, h⟩ | ⟨rfl, h⟩⟩ := (parseTag_eq_ok_iff ..).mp htag
      · exact .decimal hsign h
      · exact .hexadecimal hsign h

/-- The names are different, and none of them is a tag. -/
theorem name_unique {entry : String × ObjectType} (h : entry ∈ typeNames) :
    (typeNames.find? fun other => other.1.toList == entry.1.toList) = some entry ∧
      ∀ tag, parseTag entry.1.toList ≠ .ok tag := by
  have hall : ∀ entry ∈ typeNames,
      (typeNames.find? fun other => other.1.toList == entry.1.toList) = some entry ∧
        (parseTag entry.1.toList).toOption = none := by decide
  obtain ⟨hfind, hnone⟩ := hall entry h
  refine ⟨hfind, fun tag htag => ?_⟩
  rw [htag] at hnone
  cases hnone

theorem parseType_eq_ok_iff (kind : List Char) (type : ObjectType) :
    parseType kind = .ok type ↔ Denotes typeNames (kind.map Char.toLower) type := by
  rw [denotes_iff]
  simp only [parseType]
  generalize kind.map Char.toLower = word
  cases hfind : typeNames.find? fun entry => entry.1.toList == word with
  | some entry =>
    have hentry := List.mem_of_find?_eq_some hfind
    obtain rfl : entry.1.toList = word := by simpa using List.find?_some hfind
    constructor
    · intro h
      cases h
      exact .inl ⟨entry, hentry, rfl, rfl⟩
    · rintro (⟨other, hother, hname, rfl⟩ | ⟨tag, htag, -⟩)
      · have hsame := (name_unique hother).1
        rw [hname, hfind] at hsame
        cases hsame
        rfl
      · exact ((name_unique hentry).2 tag htag).elim
  | none =>
    have hnone : ∀ entry ∈ typeNames, entry.1.toList ≠ word := by
      simpa using List.find?_eq_none.mp hfind
    constructor
    · intro h
      cases htag : parseTag word with
      | error fault =>
        rw [htag] at h
        cases h
      | ok tag =>
        rw [htag] at h
        cases h
        exact .inr ⟨tag, rfl, rfl⟩
    · rintro (⟨entry, hentry, hname, -⟩ | ⟨tag, htag, rfl⟩)
      · exact (hnone entry hentry hname).elim
      · rw [htag]

/-- A kind that is denoted is one that its tag leads back to. -/
theorem Denotes.ofTag_tag {word : List Char} {type : ObjectType}
    (h : Denotes typeNames word type) : ObjectType.ofTag type.tag = type := by
  have hnames : ∀ entry ∈ typeNames, ObjectType.ofTag entry.2.tag = entry.2 := by decide
  cases h with
  | name hentry => exact hnames _ hentry
  | decimal _ _ => rw [ObjectType.tag_ofTag]
  | hexadecimal _ _ => rw [ObjectType.tag_ofTag]

/-- No word that denotes a kind has a colon in it. -/
theorem Denotes.colon_not_mem {word : List Char} {type : ObjectType}
    (h : Denotes typeNames word type) : ':' ∉ word := by
  have hnames : ∀ entry ∈ typeNames, ':' ∉ entry.1.toList := by decide
  have hsign {sign : List Char} (hsign : sign = [] ∨ sign = ['+']) : ':' ∉ sign := by
    obtain rfl | rfl := hsign
    · exact List.not_mem_nil
    · decide
  cases h with
  | name hentry => exact hnames _ hentry
  | decimal hs hdigits =>
    intro hmem
    obtain hmem | hmem := List.mem_append.mp hmem
    · exact hsign hs hmem
    · exact absurd (hdigits.isDigit _ hmem) (by decide)
  | hexadecimal hs hdigits =>
    intro hmem
    simp only [List.mem_cons, List.mem_append, Char.reduceEq, false_or] at hmem
    obtain hmem | hmem := hmem
    · exact hsign hs hmem
    · exact absurd (hdigits.isDigit _ hmem) (by decide)

/-! ### Items -/

section
variable {spec : String} {kind hash : List Char}

/-- What stands before the first colon is read as a kind, and what stands behind it as a hash. -/
theorem parse_eq_ok_iff_of_split (hspec : spec.toList = kind ++ ':' :: hash) (hkind : ':' ∉ kind)
    (item : Item) : parse spec = .ok item ↔
      parseType kind = .ok item.type ∧ ObjectHash.parse (String.ofList hash) = .ok item.hash := by
  obtain ⟨hfront, hrest⟩ := Text.span_mark hkind hash
  rw [parse, hspec, hfront, hrest]
  dsimp only
  obtain ⟨type, found⟩ := item
  cases htype : parseType kind with
  | error failure => simp
  | ok other =>
    cases hhash : ObjectHash.parse (String.ofList hash) with
    | error fault => simp
    | ok read => simp

theorem parse_without_colon (h : ':' ∉ spec.toList) :
    parse spec = .error (.ofCause (.itemForm spec)) := by
  have hall : ∀ c ∈ spec.toList, decide (c ≠ ':') = true := fun c hc => by
    simpa using ne_of_mem_of_not_mem hc h
  have hnone : spec.toList.dropWhile (· ≠ ':') = [] := by
    rw [← List.append_nil spec.toList, List.dropWhile_append_of_pos hall]
    rfl
  rw [parse, hnone]

end

/-- The item that a specification gives, and that there is no other. -/
theorem parse_eq_ok_iff (spec : String) (item : Item) : parse spec = .ok item ↔
    ∃ kind hash, spec.toList = kind ++ ':' :: hash ∧ ':' ∉ kind ∧
      Denotes typeNames (kind.map Char.toLower) item.type ∧ hash.length = 64 ∧
      (∀ c ∈ hash, c.isHexDigit = true) ∧ item.hash.text.toList = hash.map Char.toLower := by
  constructor
  · intro h
    by_cases hcolon : ':' ∈ spec.toList
    · obtain ⟨kind, hash, hspec, hkind⟩ := List.eq_append_cons_of_mem hcolon
      obtain ⟨htype, hhash⟩ := (parse_eq_ok_iff_of_split hspec hkind item).mp h
      exact ⟨kind, hash, hspec, hkind, (parseType_eq_ok_iff ..).mp htype,
        (ObjectHash.parse_ofList_eq_ok_iff ..).mp hhash⟩
    · rw [parse_without_colon hcolon] at h
      cases h
  · rintro ⟨kind, hash, hspec, hkind, hdenotes, hhash⟩
    exact (parse_eq_ok_iff_of_split hspec hkind item).mpr
      ⟨(parseType_eq_ok_iff ..).mpr hdenotes, (ObjectHash.parse_ofList_eq_ok_iff ..).mpr hhash⟩

theorem exists_parse_iff (spec : String) : (∃ item, parse spec = .ok item) ↔
    ∃ kind hash, spec.toList = kind ++ ':' :: hash ∧ ':' ∉ kind ∧
      (∃ type, Denotes typeNames (kind.map Char.toLower) type) ∧ hash.length = 64 ∧
      ∀ c ∈ hash, c.isHexDigit = true := by
  constructor
  · rintro ⟨item, h⟩
    obtain ⟨kind, hash, hspec, hkind, hdenotes, hlength, hdigits, -⟩ := (parse_eq_ok_iff ..).mp h
    exact ⟨kind, hash, hspec, hkind, ⟨item.type, hdenotes⟩, hlength, hdigits⟩
  · rintro ⟨kind, hash, hspec, hkind, ⟨type, hdenotes⟩, hhash⟩
    obtain ⟨found, hread⟩ := (ObjectHash.exists_parse_ofList_iff hash).mpr hhash
    exact ⟨⟨type, found⟩, (parse_eq_ok_iff_of_split hspec hkind _).mpr
      ⟨(parseType_eq_ok_iff ..).mpr hdenotes, hread⟩⟩

theorem canonical_of_parse {spec : String} {item : Item} (h : parse spec = .ok item) :
    item.canonical = item := by
  obtain ⟨kind, hash, -, -, hdenotes, -⟩ := (parse_eq_ok_iff ..).mp h
  rw [Item.canonical, hdenotes.ofTag_tag]

/-! ### Spellings -/

/-- A kind and a hash are read from whatever denotes the kind, and from the text of the hash. -/
theorem parse_spelling {kind : String} {type : ObjectType}
    (h : Denotes typeNames (kind.toList.map Char.toLower) type) (hash : ObjectHash) :
    parse (kind ++ ":" ++ hash.text) = .ok ⟨type, hash⟩ := by
  have hspec : (kind ++ ":" ++ hash.text).toList = kind.toList ++ ':' :: hash.text.toList := by
    rw [String.toList_append, String.toList_append, List.append_assoc]
    rfl
  have hkind : ':' ∉ kind.toList := fun hmem =>
    h.colon_not_mem (List.mem_map.mpr ⟨':', hmem, by decide⟩)
  refine (parse_eq_ok_iff_of_split hspec hkind _).mpr ⟨(parseType_eq_ok_iff ..).mpr h, ?_⟩
  rw [String.ofList_toList]
  exact hash.parse_text

theorem denotes_decimal (n : UInt32) :
    Denotes typeNames ((toString n).toList.map Char.toLower) (.ofTag n) := by
  have htext : (toString n).toList = Nat.toDigits 10 n.toNat := String.toList_ofList
  rw [htext, Text.Numeral.map_toLower_toDigits _ (by decide) (by decide)]
  exact .decimal (.inl rfl) (Text.Numeral.spells_decimal n)

theorem denotes_hexadecimal (width : Nat) (n : UInt32) :
    Denotes typeNames (("0x" ++ Text.Numeral.lowerHex width n.toNat).toList.map Char.toLower)
      (.ofTag n) := by
  have hnumber : (Text.Numeral.lowerHex width n.toNat).toList =
      Text.Numeral.hexadecimal width n.toNat := String.toList_ofList
  have hmark : "0x".toList.map Char.toLower = ['0', 'x'] := by decide
  rw [String.toList_append, List.map_append, hnumber, hmark,
    Text.Numeral.map_toLower_hexadecimal]
  exact @Denotes.hexadecimal typeNames [] (Text.Numeral.hexadecimal width n.toNat) n (.inl rfl)
    (Text.Numeral.spells_hexadecimal width n)

/-- A name may be written in any case. -/
theorem denotes_name {entry : String × ObjectType} (h : entry ∈ typeNames) {kind : String}
    (hkind : kind.toLower = entry.1) :
    Denotes typeNames (kind.toList.map Char.toLower) entry.2 := by
  rw [← Text.toList_toLower, hkind]
  exact .name h

/-- **A specification is read exactly if it keeps to the grammar**, and then it gives the kind that
is denoted and the hash that is written. The kind is one that its tag leads back to, so that the
number of a tag in either notation, however many zeros it has in front, and the name that goes with
it, in any case, all give the same item. -/
theorem grammar_exact :
    let names : List (String × ObjectType) := [("error", .error), ("tx", .tx), ("block", .block),
      ("filtered_block", .filteredBlock), ("cmpct_block", .compactBlock),
      ("witness_tx", .witnessTx), ("witness_block", .witnessBlock),
      ("witness_filtered_block", .witnessFilteredBlock)]
    (∀ spec, (∃ item, parse spec = .ok item) ↔
      ∃ kind hash, spec.toList = kind ++ ':' :: hash ∧ ':' ∉ kind ∧
        (∃ type, Denotes names (kind.map Char.toLower) type) ∧ hash.length = 64 ∧
        ∀ c ∈ hash, c.isHexDigit = true) ∧
    (∀ spec item, parse spec = .ok item ↔
      ∃ kind hash, spec.toList = kind ++ ':' :: hash ∧ ':' ∉ kind ∧
        Denotes names (kind.map Char.toLower) item.type ∧ hash.length = 64 ∧
        (∀ c ∈ hash, c.isHexDigit = true) ∧ item.hash.text.toList = hash.map Char.toLower) ∧
    (∀ spec item, parse spec = .ok item → ObjectType.ofTag item.type.tag = item.type) ∧
    ∀ (n : UInt32) (hash : ObjectHash),
      parse (toString n ++ ":" ++ hash.text) = .ok ⟨.ofTag n, hash⟩ ∧
      (∀ width, parse ("0x" ++ Text.Numeral.lowerHex width n.toNat ++ ":" ++ hash.text) =
        .ok ⟨.ofTag n, hash⟩) ∧
      ∀ entry ∈ names, entry.2.tag = n → entry.2 = .ofTag n ∧
        ∀ kind, kind.toLower = entry.1 →
          parse (kind ++ ":" ++ hash.text) = .ok ⟨.ofTag n, hash⟩ := by
  refine ⟨exists_parse_iff, parse_eq_ok_iff, fun spec item h => ?canonical, fun n hash =>
    ⟨parse_spelling (denotes_decimal n) hash,
      fun width => parse_spelling (denotes_hexadecimal width n) hash, ?named⟩⟩
  case canonical =>
    exact congrArg Item.type (canonical_of_parse h)
  case named =>
    rintro entry hentry rfl
    have htag : ObjectType.ofTag entry.2.tag = entry.2 := (Denotes.name hentry).ofTag_tag
    rw [htag]
    exact ⟨rfl, fun kind hkind => parse_spelling (denotes_name hentry hkind) hash⟩

/-- One item, given by the name of its kind, partly in capital letters, and by its tag in both
notations, once with zeros in front. -/
theorem grammar_exact_spellings :
    let hash : ObjectHash := ⟨⟨List.replicate 32 0xAB, rfl⟩⟩
    ∃ item, parse ("Witness_TX:" ++ hash.text) = .ok item ∧
      parse ("0x0040000001:" ++ hash.text) = .ok item ∧
      parse ("1073741825:" ++ hash.text) = .ok item ∧
      ObjectType.ofTag item.type.tag = item.type := by
  intro hash
  obtain ⟨-, -, hcanonical, hspellings⟩ := grammar_exact
  obtain ⟨hten, hsixteen, hname⟩ := hspellings 0x40000001 hash
  have hlower : "Witness_TX".toLower = "witness_tx" := by
    rw [← String.toList_inj, Text.toList_toLower]
    decide
  have hentry : ("witness_tx", ObjectType.witnessTx) ∈ typeNames := by decide
  have hnamed := (hname _ hentry rfl).2 "Witness_TX" hlower
  exact ⟨_, hnamed, hsixteen 10, hten, hcanonical _ _ hnamed⟩

end Gossip.ItemSpec
