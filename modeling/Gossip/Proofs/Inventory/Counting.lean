import Gossip.Proofs.Inventory.Acceptance

/-! What the count of an inventory decides.

Decoding an inventory begins with its count, and `decodeFor_cases` says what follows from it. A
count over the bound is refused before any item is read. A count within the bound leaves room for
every item, so that none is ever refused when it is added: an inventory that is decoded has as many
items as were counted (`decodeFor_ok`), and an error that is not the stream's is the refusal of the
count (`decodeFor_error`). -/
namespace Gossip

/-- A field fails only as the stream fails. -/
theorem Decoder.field_error {α : Type} {read : Stream.Read α} {inbound after : Inbound}
    {error : DecodeError} (h : field read inbound = .error error after) :
    ∃ cause, error = .ofStream cause := by
  simp only [field] at h
  split at h
  · cases h
  · cases h
    exact ⟨_, rfl⟩

namespace Inventory
variable {context : String} {version : ProtocolVersion} {inbound after : Inbound}

/-! ### Adding one item -/

theorem size_of_push {inventory grown : Inventory} {item : Item}
    (h : push context inventory item = .ok grown) :
    inventory.size < maxItems ∧ grown.size = inventory.size + 1 := by
  have hlist := congrArg List.length (toList_push h)
  rw [List.length_append, length_toList, length_toList] at hlist
  refine ⟨?_, hlist⟩
  by_cases room : inventory.size < maxItems
  · exact room
  · have hfull : push context inventory item = .error _ := dif_neg room
    rw [hfull] at h
    cases h

/-! ### Adding what is read -/

variable {announced count : Nat} {inventory : Inventory}

/-- A series of items that is read is added item by item. -/
theorem size_of_readItems {grown : Inventory}
    (h : readItems context version announced count inventory inbound = .ok grown after) :
    grown.size = inventory.size + count := by
  induction count generalizing inventory inbound with
  | zero =>
    cases h
    rfl
  | succ count ih =>
    cases hitem : Decoder.field (Item.read version) inbound with
    | error error left =>
      simp only [readItems, hitem] at h
      cases h
    | ok item left =>
      cases hpush : push context inventory item with
      | error full =>
        simp only [readItems, hitem, hpush] at h
        cases h
      | ok more =>
        simp only [readItems, hitem, hpush] at h
        rw [ih h, (size_of_push hpush).2]
        omega

/-- Where there is room for all items, a series fails only as the stream fails. -/
theorem readItems_error {error : DecodeError} (room : inventory.size + count ≤ maxItems)
    (h : readItems context version announced count inventory inbound = .error error after) :
    ∃ cause, error = .ofStream cause := by
  induction count generalizing inventory inbound with
  | zero => cases h
  | succ count ih =>
    cases hitem : Decoder.field (Item.read version) inbound with
    | error error left =>
      simp only [readItems, hitem] at h
      cases h
      exact Decoder.field_error hitem
    | ok item left =>
      obtain ⟨more, hpush, -, hsize⟩ := push_ok context item
        (show inventory.size < maxItems by omega)
      simp only [readItems, hitem, hpush] at h
      exact ih (by omega) h

/-! ### The count -/

/-- There is no count, or it is over the bound, or all that is left is to read so many items. -/
theorem decodeFor_cases (context : String) (version : ProtocolVersion) (inbound : Inbound) :
    (∃ error after, Decoder.field Stream.Reader.compactSize inbound = .error error after ∧
      decodeFor context version inbound = .error error after) ∨
    (∃ count counted text, Decoder.field Stream.Reader.compactSize inbound = .ok count counted ∧
      maxItems < count.toNat ∧
      decodeFor context version inbound = .error (.tooManyItems context count.toNat maxItems)
        (counted.noting ⟨.warn, .lists, text⟩)) ∨
    ∃ count counted, Decoder.field Stream.Reader.compactSize inbound = .ok count counted ∧
      count.toNat ≤ maxItems ∧
      decodeFor context version inbound =
        readItems context version count.toNat count.toNat (withCapacity count.toNat) counted := by
  unfold decodeFor
  cases hcount : Decoder.field Stream.Reader.compactSize inbound with
  | error error after =>
    rw [Stream.bind_error hcount]
    exact .inl ⟨error, after, rfl, rfl⟩
  | ok count counted =>
    rw [Stream.bind_ok hcount]
    by_cases hmany : maxItems < count.toNat
    · rw [if_pos hmany]
      exact .inr (.inl ⟨count, counted, _, rfl, hmany, rfl⟩)
    · rw [if_neg hmany]
      exact .inr (.inr ⟨count, counted, rfl, Nat.le_of_not_lt hmany, rfl⟩)

/-- A decoded inventory has as many items as were counted, and they were not too many. -/
theorem decodeFor_ok {decoded : Inventory}
    (h : decodeFor context version inbound = .ok decoded after) :
    ∃ count counted, Decoder.field Stream.Reader.compactSize inbound = .ok count counted ∧
      count.toNat ≤ maxItems ∧ decoded.size = count.toNat := by
  rcases decodeFor_cases context version inbound with
    ⟨_, _, -, hrun⟩ | ⟨_, _, _, -, -, hrun⟩ | ⟨count, counted, hcount, hfits, hrun⟩
  · rw [hrun] at h
    cases h
  · rw [hrun] at h
    cases h
  · rw [hrun] at h
    have hsize := size_of_readItems h
    rw [size_withCapacity, Nat.zero_add] at hsize
    exact ⟨count, counted, hcount, hfits, hsize⟩

/-- The refusal of a count: the count was read and is over the bound, and nothing else was read. -/
def CountRefused (context : String) (inbound after : Inbound) (error : DecodeError) : Prop :=
  ∃ count counted, Decoder.field Stream.Reader.compactSize inbound = .ok count counted ∧
    error = .tooManyItems context count.toNat 50000 ∧ 50000 < count.toNat ∧
    after.reader = counted.reader

/-- Decoding fails as the stream fails, or because of the count. -/
theorem decodeFor_error {error : DecodeError}
    (h : decodeFor context version inbound = .error error after) :
    (∃ cause, error = .ofStream cause) ∨ CountRefused context inbound after error := by
  rcases decodeFor_cases context version inbound with
    ⟨_, _, hcount, hrun⟩ | ⟨count, counted, _, hcount, hmany, hrun⟩ | ⟨count, _, -, hfits, hrun⟩
  · rw [hrun] at h
    cases h
    exact .inl (Decoder.field_error hcount)
  · rw [hrun] at h
    cases h
    exact .inr ⟨count, counted, hcount, rfl, hmany, rfl⟩
  · rw [hrun] at h
    exact .inl (readItems_error (by rw [size_withCapacity, Nat.zero_add]; exact hfits) h)

end Inventory
end Gossip
