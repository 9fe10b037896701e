import Gossip.Proofs.CompactSize
import Gossip.Proofs.Inventory.Items

/-! The layout of an inventory: its number of items as a compact size, and then the items.

Whatever has this layout can be told by the two parts (`exists_layout`), and the inventory that
stands in it is the one in which every kind is the kind that its tag leads to (`canonical`). -/
namespace Gossip.Inventory

theorem eq_of_toList_eq {a b : Inventory} (h : a.toList = b.toList) : a = b := by
  cases a
  cases b
  simpa [toList] using h

/-- The inventory with the kinds that the tags of its items lead to. -/
def canonical (inventory : Inventory) : Inventory :=
  ⟨inventory.items.map Item.canonical, by rw [Array.size_map]; exact inventory.size_le⟩

theorem toList_canonical (inventory : Inventory) :
    inventory.canonical.toList = inventory.toList.map Item.canonical := by
  simp [canonical, toList]

/-- An inventory is read back as it is if all its items are. -/
theorem canonical_eq_self_iff (inventory : Inventory) : inventory.canonical = inventory ↔
    ∀ item ∈ inventory.toList, item.canonical = item := by
  have hmap : inventory.toList.map Item.canonical = inventory.toList ↔
      ∀ item ∈ inventory.toList, item.canonical = item := by
    simpa using List.map_inj_left (f := Item.canonical) (g := id) (l := inventory.toList)
  rw [← hmap, ← toList_canonical]
  exact ⟨congrArg toList, eq_of_toList_eq⟩

theorem size_le_maxItems (inventory : Inventory) : inventory.size ≤ maxItems := inventory.size_le

/-- The number of items fits a compact size. -/
theorem toNat_size (inventory : Inventory) :
    (UInt64.ofNat inventory.size).toNat = inventory.size :=
  UInt64.toNat_ofNat_of_lt' (Nat.lt_of_le_of_lt inventory.size_le_maxItems (by decide))

theorem flatten_flatMap_fields (items : List Item) :
    (items.flatMap Item.fields).flatten = items.flatMap Item.encode := by
  induction items with
  | nil => rfl
  | cons item items ih =>
    rw [List.flatMap_cons, List.flatten_append, ih, List.flatMap_cons, Item.encode]

theorem encoding_append (inventory : Inventory) (rest : Bytes) :
    inventory.encoding ++ rest = CompactSize.encode (UInt64.ofNat inventory.size) ++
      (inventory.toList.flatMap Item.encode ++ rest) := by
  rw [encoding, fields, List.flatten_append, flatten_flatMap_fields, List.append_assoc]
  rfl

theorem length_encoding (inventory : Inventory) :
    inventory.encoding.length = inventory.encodedLength := by
  rw [← List.append_nil inventory.encoding, encoding_append, List.length_append,
    CompactSize.length_encode, List.append_nil, Item.length_flatMap_encode, length_toList,
    Nat.mul_comm]
  rfl

/-- Enough bytes behind a number are the layout of an inventory, which is read as it is. -/
theorem exists_layout {count : UInt64} {rest : Bytes} (hv : count.toNat ≤ maxItems)
    (hl : Item.size * count.toNat ≤ rest.length) :
    ∃ (inventory : Inventory) (left : Bytes),
      CompactSize.encode count ++ rest = inventory.encoding ++ left ∧
        inventory.size = count.toNat ∧ inventory.canonical = inventory := by
  obtain ⟨items, left, rfl, hlen, hitems⟩ := Item.exists_series count.toNat hl
  have hlist : toList ⟨items.toArray, by simpa [hlen] using hv⟩ = items := rfl
  refine ⟨⟨items.toArray, by simpa [hlen] using hv⟩, left, ?_, hlen, ?_⟩
  · have hcount : UInt64.ofNat items.length = count := by
      rw [hlen]
      exact UInt64.ofNat_toNat
    rw [encoding_append, hlist]
    show _ = CompactSize.encode (UInt64.ofNat items.length) ++ _
    rw [hcount]
  · apply eq_of_toList_eq
    rw [toList_canonical, hlist, hitems]

/-- Where an item stands in the layout: its tag first, then its hash. -/
theorem extract_encoding (inventory : Inventory) (rest : Bytes) {i : Nat}
    (h : i < inventory.items.size) :
    let place := CompactSize.size (UInt64.ofNat inventory.size) + Item.size * i
    (inventory.encoding ++ rest).extract place (place + 4) =
        LittleEndian.encode 4 inventory.items[i].type.tag.toNat ∧
      (inventory.encoding ++ rest).extract (place + 4) (place + Item.size) =
        inventory.items[i].hash.bytes := by
  intro place
  have hcount := CompactSize.length_encode (UInt64.ofNat inventory.size)
  have hitem : i < inventory.toList.length := by rw [length_toList]; exact h
  rw [encoding_append, Nat.add_assoc, Nat.add_assoc, Bytes.extract_behind hcount,
    Bytes.extract_behind hcount]
  exact Item.extract_series hitem rest

end Gossip.Inventory
