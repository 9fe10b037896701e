import Gossip.Proofs.Inventory.Message

/-! Building an inventory.

Items can be added one by one, to an inventory or to a message with one, or all at once; and an
inventory can be read. Each way has a check of its own. `built_alike` says that they agree: one by
one the first fifty thousand items are added and every later one is refused (`FillsUp`), all at once
no more than so many are taken, and what has been built is read back from its encoding. -/
namespace Gossip
variable {C : Type}

/-- Adds items one by one, whatever becomes of those before: the answers, and what there is then. A
refused item leaves what there is. -/
def appendEach (append : C → Item → Except CapacityExceeded C) (content : C) :
    List Item → List (Except CapacityExceeded Unit) × C
  | [] => ([], content)
  | item :: items =>
    match append content item with
    | .ok grown =>
      let later := appendEach append grown items
      (.ok () :: later.1, later.2)
    | .error full =>
      let later := appendEach append content items
      (.error full :: later.1, later.2)

/-- What comes of items that are added one by one to something that has none at first. -/
structure FillsUp (inventory : C → Inventory) (append : C → Item → Except CapacityExceeded C)
    (context : String) (start : C) (items : List Item) : Prop where
  /-- At any time, an item is added unless there is no room for it. -/
  room : ∀ content item,
    (∃ grown, append content item = .ok grown) ↔ (inventory content).isFull = false
  answers : (appendEach append start items).1 =
    List.replicate (min items.length 50000) (.ok ()) ++
      List.replicate (items.length - 50000) (.error ⟨context, 50000⟩)
  list : (inventory (appendEach append start items).2).toList = items.take 50000
  /-- Once there is no room, nothing changes any more. -/
  later : 50000 ≤ items.length → ∀ more, appendEach append start (items ++ more) =
    ((appendEach append start items).1 ++
      List.replicate more.length (.error ⟨context, 50000⟩), (appendEach append start items).2)

/-! ### Adding one item -/

/-- Where there is room an item is added at the end, and otherwise it is refused. -/
structure Appends (inventory : C → Inventory) (append : C → Item → Except CapacityExceeded C)
    (context : String) : Prop where
  ok : ∀ content item, (inventory content).size < maxItems →
    ∃ grown, append content item = .ok grown ∧
      (inventory grown).toList = (inventory content).toList ++ [item] ∧
      (inventory grown).size = (inventory content).size + 1
  error : ∀ content item, maxItems ≤ (inventory content).size →
    append content item = .error ⟨context, maxItems⟩

namespace Inventory

theorem push_full (context : String) {inventory : Inventory} (item : Item)
    (h : maxItems ≤ inventory.size) : push context inventory item = .error ⟨context, maxItems⟩ :=
  dif_neg (Nat.not_lt_of_le h)

theorem appends_append : Appends id append "InventoryList::append" where
  ok _ item room := push_ok _ item room
  error _ item full := push_full _ item full

end Inventory

theorem InventoryOf.appends_append (kind : MessageKind) :
    Appends (C := InventoryOf kind) inventory append (kind.name ++ "::add_inv_vect") where
  ok message item room := by
    obtain ⟨grown, hpush, hgrown⟩ := Inventory.push_ok (kind.name ++ "::add_inv_vect") item room
    refine ⟨⟨grown⟩, ?_, hgrown⟩
    rw [append, hpush]
    rfl
  error message item full := by
    rw [append, Inventory.push_full _ item full]
    rfl

/-! ### Adding items one by one -/

theorem appendEach_append (append : C → Item → Except CapacityExceeded C) (content : C)
    (items more : List Item) : appendEach append content (items ++ more) =
      ((appendEach append content items).1 ++
          (appendEach append (appendEach append content items).2 more).1,
        (appendEach append (appendEach append content items).2 more).2) := by
  induction items generalizing content with
  | nil => rfl
  | cons item items ih =>
    rw [List.cons_append]
    cases happend : append content item with
    | ok grown => simp only [appendEach, happend, ih, List.cons_append]
    | error full => simp only [appendEach, happend, ih, List.cons_append]

namespace Appends
variable {inventory : C → Inventory} {append : C → Item → Except CapacityExceeded C}
  {context : String} {content : C}

theorem ok_iff (h : Appends inventory append context) (content : C) (item : Item) :
    (∃ grown, append content item = .ok grown) ↔ (inventory content).isFull = false := by
  by_cases hroom : (inventory content).size < maxItems
  · obtain ⟨grown, happend, -⟩ := h.ok content item hroom
    exact iff_of_true ⟨grown, happend⟩ (decide_eq_false (Nat.not_le_of_lt hroom))
  · have hfull := Nat.le_of_not_lt hroom
    refine iff_of_false ?_ ?_
    · rintro ⟨grown, happend⟩
      rw [h.error content item hfull] at happend
      cases happend
    · simp [Inventory.isFull, hfull]

/-- By induction on the items: each one that is added takes some of the room. -/
theorem run (h : Appends inventory append context) {room : Nat}
    (hroom : (inventory content).size + room = maxItems) (items : List Item) :
    (appendEach append content items).1 =
        List.replicate (min items.length room) (.ok ()) ++
          List.replicate (items.length - room) (.error ⟨context, maxItems⟩) ∧
      (inventory (appendEach append content items).2).toList =
        (inventory content).toList ++ items.take room := by
  induction items generalizing content room with
  | nil => simp [appendEach]
  | cons item items ih =>
    cases room with
    | zero =>
      obtain ⟨hanswers, hlist⟩ := ih hroom
      rw [Nat.min_zero, Nat.sub_zero] at hanswers ⊢
      simp only [appendEach, h.error content item (Nat.le_of_eq hroom.symm)]
      exact ⟨congrArg _ hanswers, hlist⟩
    | succ room =>
      obtain ⟨grown, happend, hgrown, hsize⟩ := h.ok content item (by omega)
      obtain ⟨hanswers, hlist⟩ := ih (show (inventory grown).size + room = maxItems by omega)
      simp only [appendEach, happend]
      constructor
      · rw [hanswers, List.length_cons, Nat.succ_min_succ, Nat.add_sub_add_right]
        rfl
      · rw [hlist, hgrown, List.append_assoc]
        rfl

/-- Where there is no room, nothing changes. -/
theorem run_full (h : Appends inventory append context)
    (hfull : maxItems ≤ (inventory content).size) (items : List Item) :
    appendEach append content items =
      (List.replicate items.length (.error ⟨context, maxItems⟩), content) := by
  induction items with
  | nil => rfl
  | cons item items ih =>
    simp only [appendEach, h.error content item hfull, ih]
    rfl

theorem fillsUp (h : Appends inventory append context) (start : C)
    (hstart : (inventory start).toList = []) (items : List Item) :
    FillsUp inventory append context start items := by
  have hsize : (inventory start).size + maxItems = maxItems := by
    rw [← Inventory.length_toList, hstart]
    exact Nat.zero_add maxItems
  obtain ⟨hanswers, hlist⟩ := h.run hsize items
  rw [hstart, List.nil_append] at hlist
  refine ⟨h.ok_iff, hanswers, hlist, fun hlong more => ?_⟩
  have hfull : maxItems ≤ (inventory (appendEach append start items).2).size := by
    rw [← Inventory.length_toList, hlist, List.length_take]
    exact Nat.le_min.mpr ⟨Nat.le_refl maxItems, hlong⟩
  rw [appendEach_append, h.run_full hfull more]
  rfl

end Appends

/-! ### All ways -/

namespace Inventory

/-- What adding items one by one makes of an empty inventory. -/
def grown (items : List Item) : Inventory := (appendEach append empty items).2

theorem toList_grown (items : List Item) : (grown items).toList = items.take maxItems :=
  (appends_append.fillsUp empty rfl items).list

theorem ofArray_eq (items : List Item) : ofArray items.toArray =
    if items.length ≤ maxItems then .ok (grown items)
    else .error ⟨"InventoryList::try_from", maxItems⟩ := by
  by_cases hfits : items.length ≤ maxItems
  · have hmade : ofArray items.toArray = .ok ⟨items.toArray, hfits⟩ := dif_pos hfits
    rw [hmade, if_pos hfits]
    refine congrArg Except.ok (eq_of_toList_eq ?_)
    rw [toList_grown, List.take_of_length_le hfits]
    rfl
  · rw [if_neg hfits]
    exact dif_neg hfits

/-- An inventory is read back from its encoding if every kind is the one that its tag leads to. -/
theorem decode_encode (version : ProtocolVersion) {inventory : Inventory}
    (h : ∀ item ∈ inventory.toList, ObjectType.ofTag item.type.tag = item.type) :
    ∃ after, inventory.encode version .inMemory = .ok () after ∧
      (decode version).Yields after.sink.taken (.ok inventory) after.sink.taken.length := by
  have hcanonical : inventory.canonical = inventory := by
    refine (canonical_eq_self_iff inventory).mpr fun item hitem => ?_
    rw [Item.canonical, h item hitem]
  have hyields := yields_encoding "InventoryList::decode" version hcanonical []
  rw [List.append_nil, ← length_encoding] at hyields
  obtain ⟨after, hencode, htaken⟩ : ∃ after, inventory.encode version .inMemory = .ok () after ∧
      after.sink.taken = inventory.encoding :=
    ⟨_, encodeFor_unbounded Stream.Sink.unbounded_unbounded _ version inventory,
      Stream.Sink.taken_unbounded _⟩
  refine ⟨after, hencode, ?_⟩
  rw [htaken]
  exact hyields

/-- **All ways to build an inventory agree.** One by one, to an inventory or to a message, as many
items are added as there is room for, and all others are refused; all at once they are taken if
there is room for all; and what has been taken is read back from its own encoding. -/
theorem built_alike (items : List Item) (capacity : Nat) (version : ProtocolVersion) :
    (∀ start ∈ [empty, withCapacity capacity],
      FillsUp id append "InventoryList::append" start items ∧
      ∀ kind : MessageKind, FillsUp InventoryOf.inventory InventoryOf.append
        (kind.name ++ "::add_inv_vect") (⟨start⟩ : InventoryOf kind) items) ∧
    (ofArray items.toArray =
      if items.length ≤ 50000 then .ok (grown items)
      else .error ⟨"InventoryList::try_from", 50000⟩) ∧
    ∀ inventory, ofArray items.toArray = .ok inventory →
      (∀ item ∈ items, ObjectType.ofTag item.type.tag = item.type) →
      ∃ after, inventory.encode version .inMemory = .ok () after ∧
        (decode version).Yields after.sink.taken (.ok inventory) after.sink.taken.length := by
  refine ⟨?oneByOne, ofArray_eq items, ?readBack⟩
  case oneByOne =>
    intro start hstart
    have hempty : start.toList = [] := by
      rcases List.mem_cons.mp hstart with rfl | hstart
      · rfl
      · rw [List.mem_singleton.mp hstart]
        exact toList_withCapacity capacity
    exact ⟨appends_append.fillsUp start hempty items,
      fun kind => (InventoryOf.appends_append kind).fillsUp ⟨start⟩ hempty items⟩
  case readBack =>
    intro inventory hmade hitems
    have hlist : inventory.toList = items := by
      unfold ofArray at hmade
      split at hmade
      · cases hmade
        rfl
      · cases hmade
    rw [← hlist] at hitems
    exact decode_encode version hitems

end Inventory
end Gossip
