import Mathlib.Data.List.TakeWhile
import Gossip.Inventory.JsonForm
import Gossip.Proofs.Inventory.ObjectHash
import Gossip.Proofs.Json.Parsing
import Gossip.Proofs.Text.Numeral

/-! Inventories and their messages are read back from JSON.

What each of them is in JSON is well formed and read as what it was made from (`Faithful`), each by
what holds of its parts. So the texts, which are parsed into the JSON, are read back as well, whether
they have blanks or not (`reads_back_from_json`). -/
namespace Gossip.Json

/-! ### Numbers and records -/

/-- Digits are a numeral unless a zero stands before another one. -/
theorem isNumeral_digits {first : Char} {rest : List Char} (hfirst : first.isDigit = true)
    (hrest : ∀ c ∈ rest, c.isDigit = true) (hzero : first = '0' → rest = []) :
    isNumeral (first :: rest) = true := by
  have hsign : first ≠ '-' := by
    rintro rfl
    cases hfirst
  have hmagnitude : isNumeral (first :: rest) = isMagnitude (first :: rest) := by
    unfold isNumeral
    split
    · rename_i heq
      exact absurd (List.cons.inj heq).1 hsign
    · rfl
  rw [hmagnitude]
  by_cases hz : first = '0'
  · rw [hz, hzero hz]
    rfl
  · have hdrop : rest.dropWhile Char.isDigit = [] := List.dropWhile_eq_nil_iff.mpr hrest
    unfold isMagnitude
    split
    · rename_i heq
      exact absurd (List.cons.inj heq).1 hz
    · rename_i heq
      obtain ⟨rfl, rfl⟩ := List.cons.inj heq
      rw [hfirst, hdrop]
      rfl
    · contradiction

/-- By induction on the number: its first digit is that of the number without its last one. -/
theorem head?_toDigits_ne_zero {n : Nat} (h : n ≠ 0) : (Nat.toDigits 10 n).head? ≠ some '0' := by
  induction n using Nat.strongRecOn with
  | ind n ih =>
    by_cases hsmall : n < 10
    · simpa [Nat.toDigits_of_lt_base hsmall] using h
    · have hfront := ih (n / 10) (by omega) (by omega)
      rw [Nat.toDigits_of_base_le (by decide) (by omega)]
      cases hdigits : Nat.toDigits 10 (n / 10) with
      | nil => exact absurd hdigits Nat.toDigits_ne_nil
      | cons first rest => rwa [hdigits] at hfront

theorem isNumeral_toDigits (n : Nat) : isNumeral (Nat.toDigits 10 n) = true := by
  by_cases hn : n = 0
  · subst hn
    rfl
  · have hdigit : ∀ c ∈ Nat.toDigits 10 n, c.isDigit = true := fun c hc =>
      Nat.isDigit_of_mem_toDigits (by decide) (by decide) hc
    have hhead := head?_toDigits_ne_zero hn
    cases hdigits : Nat.toDigits 10 n with
    | nil => exact absurd hdigits Nat.toDigits_ne_nil
    | cons first rest =>
      rw [hdigits] at hdigit hhead
      rw [List.forall_mem_cons] at hdigit
      exact isNumeral_digits hdigit.1 hdigit.2 fun hz => absurd (congrArg some hz) hhead

theorem WellFormed.ofNat (n : Nat) : WellFormed (ofNat n) :=
  .number (by simpa using isNumeral_toDigits n)

theorem uint32?_ofNat (n : UInt32) : (ofNat n.toNat).uint32? = some n := by
  have hread : Text.Numeral.readDigits 10 0 (Nat.toDigits 10 n.toNat) = .ok n.toNat :=
    Text.Numeral.readDigits_toDigits (by decide) (by decide) n.toNat_lt
  simp [ofNat, uint32?, hread]

theorem WellFormed.ofFields {fields : List (String × Json)}
    (h : ∀ field ∈ fields, WellFormed field.2) : WellFormed (ofFields fields) :=
  .object (by simpa only [List.forall_mem_map] using h)

/-! ### What is read back -/

/-- The JSON of a type is well formed, and read as what it was made from. -/
structure Faithful {α : Type} (toJson : α → Json) (ofJson? : Json → Option α) : Prop where
  wellFormed : ∀ value, (toJson value).WellFormed
  ofJson?_toJson : ∀ value, ofJson? (toJson value) = some value

/-- A value of a type is read from its text, without blanks or with them. -/
def ReadsBack {α : Type} (toJson : α → Json) (ofJson? : Json → Option α) : Prop :=
  ∀ value, (parse? (toJson value).compact).bind ofJson? = some value ∧
    (parse? (toJson value).indented).bind ofJson? = some value

theorem Faithful.readsBack {α : Type} {toJson : α → Json} {ofJson? : Json → Option α}
    (h : Faithful toJson ofJson?) : ReadsBack toJson ofJson? := by
  intro value
  rw [parse?_compact (h.wellFormed value), parse?_indented (h.wellFormed value)]
  exact ⟨h.ofJson?_toJson value, h.ofJson?_toJson value⟩

end Gossip.Json

namespace Gossip
open Json (Faithful WellFormed)

theorem ObjectType.faithful : Faithful toJson ofJson? where
  wellFormed kind := by
    cases kind with
    | unknown tag => exact .ofFields (by simpa using .ofNat _)
    | _ => exact .text _
  ofJson?_toJson kind := by
    cases kind with
    | unknown tag =>
      show ObjectType.unknown <$> (Json.ofNat tag.toNat).uint32? = _
      rw [Json.uint32?_ofNat]
      rfl
    | _ => rfl

theorem ObjectHash.faithful : Faithful toJson ofJson? where
  wellFormed _ := .text _
  ofJson?_toJson hash := by
    simp [ofJson?, toJson, Json.ofString, Json.text?, parse_text]

theorem Item.faithful : Faithful toJson ofJson? where
  wellFormed item := .ofFields (by
    simpa using ⟨ObjectType.faithful.wellFormed item.type, ObjectHash.faithful.wellFormed item.hash⟩)
  ofJson?_toJson item := by
    have hfields : item.toJson.fields? ["inv_type", "hash"] =
        some [item.type.toJson, item.hash.toJson] := rfl
    simp only [ofJson?, hfields, ObjectType.faithful.ofJson?_toJson,
      ObjectHash.faithful.ofJson?_toJson]
    rfl

/-- By induction on the items: each is read from its place. -/
theorem Item.mapM_ofJson? (items : List Item) :
    (items.map toJson).mapM ofJson? = some items := by
  induction items with
  | nil => rfl
  | cons item items ih =>
    rw [List.map_cons, List.mapM_cons, faithful.ofJson?_toJson, ih]
    rfl

theorem Inventory.faithful : Faithful toJson ofJson? where
  wellFormed inventory := .array (by
    simpa using fun item _ => Item.faithful.wellFormed item)
  ofJson?_toJson inventory := by
    have hfits : ofArray inventory.toList.toArray = .ok inventory := dif_pos inventory.size_le
    simp only [toJson, ofJson?, Item.mapM_ofJson?, Option.bind_eq_bind, Option.bind_some, hfits]

theorem InventoryOf.faithful {kind : MessageKind} :
    Faithful (@toJson kind) (@ofJson? kind) where
  wellFormed message := .ofFields (by
    simpa using Inventory.faithful.wellFormed message.inventory)
  ofJson?_toJson message := by
    have hfields : message.toJson.fields? ["inv_list"] = some [message.inventory.toJson] := rfl
    simp only [ofJson?, hfields, Inventory.faithful.ofJson?_toJson]
    rfl

theorem InventoryMessage.faithful : Faithful toJson ofJson? where
  wellFormed message := .ofFields (by
    simpa using InventoryOf.faithful.wellFormed message.content)
  ofJson?_toJson message := by
    obtain ⟨kind, content⟩ := message
    have hfind : MessageKind.all.find? (fun other => other.word == kind.word) = some kind := by
      cases kind <;> rfl
    simp only [toJson, Json.ofFields, List.map_cons, List.map_nil, ofJson?, hfind,
      Option.bind_eq_bind, Option.bind_some, InventoryOf.faithful.ofJson?_toJson]
    rfl

/-- Messages, of any kind or of a known one, inventories, items, kinds of objects and hashes are
read back from their JSON texts. -/
theorem reads_back_from_json :
    Json.ReadsBack InventoryMessage.toJson InventoryMessage.ofJson? ∧
      (∀ kind, Json.ReadsBack (@InventoryOf.toJson kind) (@InventoryOf.ofJson? kind)) ∧
      Json.ReadsBack Inventory.toJson Inventory.ofJson? ∧
      Json.ReadsBack Item.toJson Item.ofJson? ∧
      Json.ReadsBack ObjectType.toJson ObjectType.ofJson? ∧
      Json.ReadsBack ObjectHash.toJson ObjectHash.ofJson? :=
  ⟨InventoryMessage.faithful.readsBack, fun _ => InventoryOf.faithful.readsBack,
    Inventory.faithful.readsBack, Item.faithful.readsBack, ObjectType.faithful.readsBack,
    ObjectHash.faithful.readsBack⟩

-- A kind and an unknown kind with its tag are one on the wire; in JSON they are apart.
example : ObjectType.tx.tag = (ObjectType.unknown 1).tag ∧
    ObjectType.tx.toJson.compact = "\"Tx\"" ∧
    (ObjectType.unknown 1).toJson.compact = "\x7b\"Unknown\":1\x7d" := ⟨rfl, rfl, by decide⟩

end Gossip
