import Gossip.Inventory.Basic
import Gossip.Proofs.Frame.Decoding
import Gossip.Proofs.Inventory.ObjectType

/-! Reading items, one after the other.

An item is read back from its layout with the kind that its tag leads to (`canonical`), and
thirty-six bytes are the layout of some such item. Over a series of items, `readItems_front` says
that all are read and added in order, and `readItems_short` which field the series breaks off in. -/
namespace Gossip

namespace Item
open Inbound (Ahead)

theorem encode_append (item : Item) (rest : Bytes) :
    item.encode ++ rest =
      LittleEndian.encode 4 item.type.tag.toNat ++ (item.hash.octets.bytes ++ rest) := by
  simp [encode, fields, ObjectHash.bytes]

/-- An item is read back as it is unless its kind is unknown by a tag with a name. -/
theorem canonical_eq_self (item : Item) : item.canonical = item ↔
    ∀ tag, item.type = .unknown tag → ¬ ObjectType.IsNamed tag := by
  rw [← ObjectType.ofTag_tag]
  constructor
  · exact congrArg Item.type
  · intro h
    rw [canonical, h]

/-- Enough bytes start with the layout of an item, which is read as it is. -/
theorem exists_front {bytes : Bytes} (h : size ≤ bytes.length) :
    ∃ (item : Item) (rest : Bytes), bytes = item.encode ++ rest ∧ item.canonical = item := by
  obtain ⟨tag, rest, rfl⟩ := LittleEndian.exists_u32_front (Nat.le_trans (by decide) h)
  rw [List.length_append, LittleEndian.length_encode] at h
  obtain ⟨hash, rest, rfl⟩ := Octets.exists_front (show 32 ≤ rest.length by
    simp only [size] at h
    omega)
  refine ⟨⟨.ofTag tag, ⟨hash⟩⟩, rest, ?_, ?_⟩
  · rw [encode_append, ObjectType.tag_ofTag]
  · simp only [canonical, ObjectType.tag_ofTag]

/-! ### One item -/

/-- The error of an item of which only so many bytes arrive. -/
def cut (got : Nat) (stop : Stream.Source.Stop) : DecodeError :=
  if got < 4 then .cut 4 got stop else .cut 32 (got - 4) stop

variable {start : Inbound} {count : Nat} {rest : Bytes} (version : ProtocolVersion)

theorem read_layout {item : Item} {reader : Stream.Reader}
    (h : reader.arriving = item.encode ++ rest) :
    read version reader = .ok item.canonical (reader.skip size) := by
  rw [encode_append] at h
  have hhash := Stream.Reader.arriving_skip h (LittleEndian.length_encode ..)
  unfold read
  rw [Stream.bind_ok (Stream.Reader.u32_front h),
    Stream.bind_ok (Stream.Reader.octets_front hhash), Stream.Reader.skip_skip]
  rfl

theorem read_front {item : Item} (h : Ahead start count (item.encode ++ rest)) :
    Decoder.field (read version) (start.skip count) =
      .ok item.canonical (start.skip (count + size)) :=
  Decoder.field_ok (read_layout version h.arriving_skip)

theorem read_short (h : Ahead start count rest) (hl : rest.length < size) :
    Decoder.field (read version) (start.skip count) =
      .error (cut rest.length start.ending) start.drain := by
  by_cases h4 : rest.length < 4
  · rw [cut, if_pos h4]
    apply Decoder.field_cut h
    unfold read
    rw [Stream.bind_error (Stream.Reader.u32_short h.arriving_skip h4)]
  · rw [cut, if_neg h4]
    obtain ⟨tag, left, rfl⟩ := LittleEndian.exists_u32_front (Nat.le_of_not_lt h4)
    rw [List.length_append, LittleEndian.length_encode] at hl ⊢
    rw [Nat.add_sub_cancel_left]
    have hleft := h.next (LittleEndian.length_encode ..)
    have hshort := Stream.Reader.octets_short hleft.arriving_skip
      (show left.length < 32 by simp only [size] at hl; omega)
    rw [hleft.ending_skip, hleft.drain_skip, ← Stream.Reader.skip_skip] at hshort
    apply Decoder.field_cut h
    unfold read
    rw [Stream.bind_ok (Stream.Reader.u32_front h.arriving_skip), Stream.bind_error hshort,
      h.ending_skip, h.drain_skip]

theorem length_flatMap_encode (items : List Item) :
    (items.flatMap encode).length = size * items.length := by
  induction items with
  | nil => rfl
  | cons item rest ih =>
    rw [List.flatMap_cons, List.length_append, item.length_encode, ih, List.length_cons,
      Nat.mul_add_one, Nat.add_comm]

/-- Enough bytes start with a series of items, all of which are read as they are. -/
theorem exists_series (count : Nat) {bytes : Bytes} (h : size * count ≤ bytes.length) :
    ∃ (items : List Item) (rest : Bytes), bytes = items.flatMap encode ++ rest ∧
      items.length = count ∧ items.map canonical = items := by
  induction count generalizing bytes with
  | zero => exact ⟨[], bytes, rfl, rfl, rfl⟩
  | succ count ih =>
    rw [Nat.mul_add_one] at h
    obtain ⟨item, behind, rfl, hitem⟩ := exists_front (Nat.le_trans (Nat.le_add_left ..) h)
    rw [List.length_append, item.length_encode, Nat.add_comm size] at h
    obtain ⟨items, rest, rfl, hlen, hitems⟩ := ih (Nat.le_of_add_le_add_right h)
    refine ⟨item :: items, rest, ?_, by rw [List.length_cons, hlen], ?_⟩
    · rw [List.flatMap_cons, List.append_assoc]
    · rw [List.map_cons, hitem, hitems]

/-- Where an item of a series stands: its tag first, then its hash. -/
theorem extract_series {items : List Item} {i : Nat} (h : i < items.length) (rest : Bytes) :
    (items.flatMap encode ++ rest).extract (size * i) (size * i + 4) =
        LittleEndian.encode 4 items[i].type.tag.toNat ∧
      (items.flatMap encode ++ rest).extract (size * i + 4) (size * i + size) =
        items[i].hash.bytes := by
  induction items generalizing i with
  | nil => exact absurd h (Nat.not_lt_zero i)
  | cons item items ih =>
    rw [List.flatMap_cons, List.append_assoc]
    cases i with
    | zero =>
      have htag := LittleEndian.length_encode 4 item.type.tag.toNat
      rw [encode_append]
      exact ⟨Bytes.extract_front htag, (Bytes.extract_behind htag 0 32).trans
        (Bytes.extract_front item.hash.octets.length_eq)⟩
    | succ i =>
      rw [Nat.mul_add_one, Nat.add_comm (size * i), Nat.add_assoc, Nat.add_assoc,
        Bytes.extract_behind item.length_encode, Bytes.extract_behind item.length_encode]
      exact ih (Nat.lt_of_succ_lt_succ h)

end Item

/-! ### A series of items -/

namespace Inventory
open Inbound (Ahead)
variable {start : Inbound} {count : Nat} {rest : Bytes} {inventory : Inventory}
  (context : String) (version : ProtocolVersion) (announced : Nat)

theorem length_toList (inventory : Inventory) : inventory.toList.length = inventory.size :=
  Array.length_toList

/-- Where there is room, an item is added at the end. -/
theorem push_ok (item : Item) (room : inventory.size < maxItems) :
    ∃ grown, push context inventory item = .ok grown ∧
      grown.toList = inventory.toList ++ [item] ∧ grown.size = inventory.size + 1 := by
  have hpush : push context inventory item = .ok _ := dif_pos room
  have hlist := toList_push hpush
  refine ⟨_, hpush, hlist, ?_⟩
  rw [← length_toList, hlist, List.length_append, length_toList]
  rfl

/-- An item is read, and then it is added. -/
theorem readItems_succ (count : Nat) (inventory : Inventory) :
    readItems context version announced (count + 1) inventory = (do
      let item ← Decoder.field (Item.read version)
      match push context inventory item with
      | .error full => throw (.tooManyItems context announced full.limit)
      | .ok grown => readItems context version announced count grown) := by
  funext inbound
  rw [readItems]
  cases h : Decoder.field (Item.read version) inbound with
  | error error after =>
    rw [Stream.bind_error h]
    simp only [h]
  | ok item after =>
    rw [Stream.bind_ok h]
    simp only [h]
    cases push context inventory item <;> rfl

/-- As long as there is room, the items that are ahead are read and added in order. -/
theorem readItems_front {items : List Item}
    (h : Ahead start count (items.flatMap Item.encode ++ rest))
    (room : inventory.size + items.length ≤ maxItems) :
    ∃ grown, readItems context version announced items.length inventory (start.skip count) =
        .ok grown (start.skip (count + Item.size * items.length)) ∧
      grown.toList = inventory.toList ++ items.map Item.canonical := by
  induction items generalizing count inventory with
  | nil => exact ⟨inventory, rfl, by simp⟩
  | cons item items ih =>
    rw [List.flatMap_cons, List.append_assoc] at h
    rw [List.length_cons] at room
    obtain ⟨grown, hpush, hgrown, hsize⟩ := push_ok context item.canonical
      (show inventory.size < maxItems by omega)
    obtain ⟨last, hread, hlast⟩ := ih (h.next item.length_encode)
      (show grown.size + items.length ≤ maxItems by omega)
    refine ⟨last, ?_, by rw [hlast, hgrown]; simp⟩
    simp only [List.length_cons, readItems, Item.read_front version h, hpush]
    rw [hread, Nat.mul_add_one, Nat.add_comm (Item.size * _), Nat.add_assoc]

/-- If fewer items are ahead than are announced, the series breaks off where the bytes end. -/
theorem readItems_short {missing : Nat} (h : Ahead start count rest)
    (hl : rest.length < Item.size * missing) (room : inventory.size + missing ≤ maxItems) :
    readItems context version announced missing inventory (start.skip count) =
      .error (Item.cut (rest.length % Item.size) start.ending) start.drain := by
  induction missing generalizing count inventory rest with
  | zero => omega
  | succ missing ih =>
    by_cases hfirst : rest.length < Item.size
    · simp only [readItems, Item.read_short version h hfirst, Nat.mod_eq_of_lt hfirst]
    obtain ⟨item, behind, rfl, -⟩ := Item.exists_front (Nat.le_of_not_lt hfirst)
    obtain ⟨grown, hpush, -, hsize⟩ := push_ok context item.canonical
      (show inventory.size < maxItems by omega)
    have hlen : (item.encode ++ behind).length = Item.size + behind.length := by
      rw [List.length_append, item.length_encode]
    rw [Nat.mul_add_one, hlen] at hl
    simp only [readItems, Item.read_front version h, hpush]
    rw [ih (h.next item.length_encode) (by omega) (by omega), hlen, Nat.add_mod_left]

end Inventory
end Gossip
