import Gossip.Inventory.Message
import Gossip.Proofs.Inventory.Layout

/-! Which byte strings are read as inventories.

An inventory starts with a canonical compact size, its count. A count over the bound is refused
without a look at what follows it, and otherwise so many items are read as are counted. `Decides`
puts this down for every byte string: what comes out, and how many bytes are consumed.
`decode_decides` says that inventories are read in this way, alone or as what a message carries. -/
namespace Gossip.Inventory
open Inbound (Ahead)

variable {start : Inbound} {count : Nat} {rest : Bytes} (context : String)
  (version : ProtocolVersion)

/-! ### One lemma for each outcome -/

theorem decodeFor_none (h : Ahead start count []) :
    decodeFor context version (start.skip count) = .error (.cut 1 0 start.ending) start.drain := by
  unfold decodeFor
  rw [Stream.bind_error (Decoder.compactSize_none h)]

theorem decodeFor_cut {first : UInt8} (h : Ahead start count (first :: rest))
    (hl : rest.length < CompactSize.tailWidth first) :
    decodeFor context version (start.skip count) =
      .error (.cut (CompactSize.tailWidth first) rest.length start.ending) start.drain := by
  unfold decodeFor
  rw [Stream.bind_error (Decoder.compactSize_cut h hl)]

theorem decodeFor_wide {first : UInt8} {tail : Bytes}
    (h : Ahead start count (first :: (tail ++ rest)))
    (hl : tail.length = CompactSize.tailWidth first)
    (hs : CompactSize.size (CompactSize.valueOf first tail) < 1 + tail.length) :
    decodeFor context version (start.skip count) =
      .error (.malformed (.nonCanonicalSize (CompactSize.valueOf first tail) (1 + tail.length)))
        (start.skip (count + (1 + tail.length))) := by
  unfold decodeFor
  rw [Stream.bind_error (Decoder.compactSize_wide h hl hs)]

variable {value : UInt64}

theorem decodeFor_too_many (h : Ahead start count (CompactSize.encode value ++ rest))
    (hv : maxItems < value.toNat) :
    ∃ text, decodeFor context version (start.skip count) =
      .error (.tooManyItems context value.toNat maxItems)
        ((start.skip (count + CompactSize.size value)).noting ⟨.warn, .lists, text⟩) := by
  unfold decodeFor
  rw [Stream.bind_ok (Decoder.compactSize_front h), if_pos hv]
  exact ⟨_, rfl⟩

theorem size_withCapacity (capacity : Nat) : (withCapacity capacity).size = 0 := by
  simp [withCapacity, size]

theorem toList_withCapacity (capacity : Nat) : (withCapacity capacity).toList = [] := by
  rw [← List.length_eq_zero_iff, length_toList, size_withCapacity]

theorem decodeFor_short (h : Ahead start count (CompactSize.encode value ++ rest))
    (hv : value.toNat ≤ maxItems) (hl : rest.length < Item.size * value.toNat) :
    decodeFor context version (start.skip count) =
      .error (Item.cut (rest.length % Item.size) start.ending) start.drain := by
  have hitems := h.next (CompactSize.length_encode value)
  unfold decodeFor
  rw [Stream.bind_ok (Decoder.compactSize_front h), if_neg (Nat.not_lt_of_le hv),
    readItems_short context version _ hitems hl
      (by rw [size_withCapacity, Nat.zero_add]; exact hv)]

/-- **An inventory is read from its layout**, each item with the kind that its tag leads to, and
nothing of what follows is touched. -/
theorem decodeFor_front {inventory : Inventory}
    (h : Ahead start count (inventory.encoding ++ rest)) :
    decodeFor context version (start.skip count) =
      .ok inventory.canonical (start.skip (count + inventory.encodedLength)) := by
  have hsize := inventory.toNat_size
  have hlen := inventory.length_toList
  have hfits := inventory.size_le_maxItems
  rw [encoding_append] at h
  obtain ⟨grown, hread, hlist⟩ := readItems_front context version inventory.size
    (h.next (CompactSize.length_encode _))
    (show (withCapacity inventory.size).size + inventory.toList.length ≤ maxItems by
      rw [size_withCapacity, Nat.zero_add, hlen]
      exact hfits)
  have hgrown : grown = inventory.canonical := by
    apply eq_of_toList_eq
    rw [hlist, toList_withCapacity, List.nil_append, toList_canonical]
  rw [hlen, hgrown, Nat.mul_comm, Nat.add_assoc] at hread
  unfold decodeFor
  rw [Stream.bind_ok (Decoder.compactSize_front h), hsize, if_neg (Nat.not_lt_of_le hfits), hread]
  rfl

theorem yields_encoding {inventory : Inventory} (h : inventory.canonical = inventory)
    (rest : Bytes) : (decodeFor context version).Yields (inventory.encoding ++ rest)
      (.ok inventory) inventory.encodedLength := by
  refine Decoder.yields_skip ?_ fun start hahead => ⟨start.log, ?_⟩
  · rw [List.length_append, length_encoding]
    exact Nat.le_add_right ..
  · rw [decodeFor_front context version hahead, h, Nat.zero_add]
    rfl

/-- **Only canonical inventories are read**, each from its own layout. -/
theorem eq_of_decodeFor {inbound after : Inbound} {inventory : Inventory}
    (h : decodeFor context version inbound = .ok inventory after) :
    inventory.canonical = inventory ∧ (∃ rest, Ahead inbound 0 (inventory.encoding ++ rest)) ∧
      after = inbound.skip inventory.encodedLength := by
  have hahead := Inbound.ahead_start inbound
  generalize inbound.arriving = bytes at hahead
  rw [← Inbound.skip_zero inbound] at h
  cases CompactSize.shape bytes with
  | none =>
    rw [decodeFor_none context version hahead] at h
    cases h
  | cut first hl =>
    rw [decodeFor_cut context version hahead hl] at h
    cases h
  | wide first tail rest hl hs =>
    rw [decodeFor_wide context version hahead hl hs] at h
    cases h
  | whole count rest =>
    by_cases hv : maxItems < count.toNat
    · obtain ⟨_, hrun⟩ := decodeFor_too_many context version hahead hv
      rw [hrun] at h
      cases h
    have hv := Nat.le_of_not_lt hv
    by_cases hl : rest.length < Item.size * count.toNat
    · rw [decodeFor_short context version hahead hv hl] at h
      cases h
    obtain ⟨found, left, hlayout, -, hcanonical⟩ := exists_layout hv (Nat.le_of_not_lt hl)
    rw [hlayout] at hahead
    rw [decodeFor_front context version hahead, hcanonical, Nat.zero_add] at h
    cases h
    exact ⟨hcanonical, ⟨left, hahead⟩, rfl⟩

/-! ### The decision -/

/-- What is to come of a byte string that is read as an inventory: the result, and how many bytes
are consumed. -/
structure Decides (context : String) (bytes : Bytes)
    (yields : Except DecodeError Inventory → Nat → Prop) : Prop where
  /-- The byte string starts in one of four ways, as far as its count goes. -/
  starts : CompactSize.Shape bytes
  none : bytes = [] → yields (.error (.truncated 1 0)) 0
  /-- A first byte announces more than there is. -/
  cut : ∀ first rest, bytes = first :: rest → rest.length < CompactSize.tailWidth first →
    yields (.error (.truncated (CompactSize.tailWidth first) rest.length)) bytes.length
  /-- A count stands in more bytes than it needs. -/
  wide : ∀ first tail rest, bytes = first :: (tail ++ rest) →
    tail.length = CompactSize.tailWidth first →
    CompactSize.size (CompactSize.valueOf first tail) < 1 + tail.length →
    yields (.error (.malformed
      (.nonCanonicalSize (CompactSize.valueOf first tail) (1 + tail.length)))) (1 + tail.length)
  tooMany : ∀ count rest, bytes = CompactSize.encode count ++ rest → 50000 < count.toNat →
    yields (.error (.tooManyItems context count.toNat 50000)) (CompactSize.size count)
  /-- The bytes end in the tag of an item, or in its hash. -/
  itemCut : ∀ count rest, bytes = CompactSize.encode count ++ rest → count.toNat ≤ 50000 →
    rest.length < 36 * count.toNat →
    yields (.error (if rest.length % 36 < 4 then .truncated 4 (rest.length % 36)
      else .truncated 32 (rest.length % 36 - 4))) bytes.length
  whole : ∀ count rest, bytes = CompactSize.encode count ++ rest → count.toNat ≤ 50000 →
    36 * count.toNat ≤ rest.length →
    ∃ inventory : Inventory, inventory.size = count.toNat ∧
      (∀ i (h : i < inventory.items.size),
        let place := CompactSize.size count + 36 * i
        inventory.items[i].type =
            .ofTag (UInt32.ofNat (LittleEndian.decode (bytes.extract place (place + 4)))) ∧
          inventory.items[i].hash.bytes = bytes.extract (place + 4) (place + 36)) ∧
      yields (.ok inventory) (CompactSize.size count + 36 * count.toNat)

theorem decodeFor_decides (bytes : Bytes) :
    Decides context bytes ((decodeFor context version).Yields bytes) where
  starts := CompactSize.shape bytes
  none := by
    rintro rfl
    exact Decoder.yields_drain fun _ h => decodeFor_none context version h
  cut := by
    rintro first rest rfl hl
    exact Decoder.yields_drain fun _ h => decodeFor_cut context version h hl
  wide := by
    rintro first tail rest rfl hl hs
    refine Decoder.yields_skip ?_ fun start h => ⟨start.log, ?_⟩
    · rw [List.length_cons, List.length_append]
      omega
    · rw [decodeFor_wide context version h hl hs, Nat.zero_add]
      rfl
  tooMany := by
    rintro count rest rfl hv
    refine Decoder.yields_skip ?_ fun start h => ?_
    · rw [List.length_append, CompactSize.length_encode]
      exact Nat.le_add_right ..
    · obtain ⟨text, hrun⟩ := decodeFor_too_many context version h hv
      rw [Nat.zero_add] at hrun
      exact ⟨_, hrun⟩
  itemCut := by
    rintro count rest rfl hv hl
    have hrun (start : Inbound) (h : Ahead start 0 _) := decodeFor_short context version h hv hl
    simp only [Item.cut] at hrun
    split
    · rename_i h4
      exact Decoder.yields_drain fun start h => by rw [hrun start h, Item.size, if_pos h4]
    · rename_i h4
      exact Decoder.yields_drain fun start h => by rw [hrun start h, Item.size, if_neg h4]
  whole := by
    intro count rest hbytes hv hl
    obtain ⟨inventory, left, hlayout, hsize, hcanonical⟩ := exists_layout hv hl
    rw [hlayout] at hbytes
    subst hbytes
    have hcount : UInt64.ofNat inventory.size = count := by
      rw [hsize]
      exact UInt64.ofNat_toNat
    refine ⟨inventory, hsize, fun i hi => ?_, ?_⟩
    · obtain ⟨htag, hhash⟩ := inventory.extract_encoding left hi
      rw [hcount, Item.size] at htag hhash
      have hitem : inventory.items[i].canonical = inventory.items[i] :=
        (canonical_eq_self_iff inventory).mp hcanonical _ (Array.getElem_mem_toList hi)
      refine ⟨?_, hhash.symm⟩
      rw [htag, LittleEndian.decode_encode_of_lt (UInt32.toNat_lt _), UInt32.ofNat_toNat]
      exact (congrArg Item.type hitem).symm
    · have hlen : CompactSize.size count + 36 * count.toNat = inventory.encodedLength := by
        rw [encodedLength, hcount, hsize, Nat.mul_comm]
        rfl
      rw [hlen]
      exact yields_encoding context version hcanonical left

/-! ### Inventories alone and in messages -/

theorem Decides.imp {context : String} {bytes : Bytes}
    {yields yields' : Except DecodeError Inventory → Nat → Prop}
    (h : ∀ result consumed, yields result consumed → yields' result consumed)
    (decides : Decides context bytes yields) : Decides context bytes yields' where
  starts := decides.starts
  none hbytes := h _ _ (decides.none hbytes)
  cut first rest hbytes hl := h _ _ (decides.cut first rest hbytes hl)
  wide first tail rest hbytes hl hs := h _ _ (decides.wide first tail rest hbytes hl hs)
  tooMany count rest hbytes hv := h _ _ (decides.tooMany count rest hbytes hv)
  itemCut count rest hbytes hv hl := h _ _ (decides.itemCut count rest hbytes hv hl)
  whole count rest hbytes hv hl := by
    obtain ⟨inventory, hsize, hitems, hyields⟩ := decides.whole count rest hbytes hv hl
    exact ⟨inventory, hsize, hitems, h _ _ hyields⟩

end Gossip.Inventory

namespace Gossip.InventoryOf
variable {kind : MessageKind} {version : ProtocolVersion} (message : InventoryOf kind)
  {inbound after : Inbound}

theorem decode_ok {inventory : Inventory}
    (h : Inventory.decodeFor (kind.name ++ "::decode") version inbound = .ok inventory after) :
    Message.decode version (message, inbound) = .ok () (⟨inventory⟩, after) := by
  simp only [Message.decode, h]

theorem decode_error {error : DecodeError}
    (h : Inventory.decodeFor (kind.name ++ "::decode") version inbound = .error error after) :
    Message.decode version (message, inbound) = .error error (message, after) := by
  simp only [Message.decode, h]

/-- On a byte string a message takes this inventory or reports this error, whatever it was before
and whatever was recorded. An error leaves it as it was. -/
def Yields (version : ProtocolVersion) (message : InventoryOf kind) (bytes : Bytes)
    (result : Except DecodeError Inventory) (consumed : Nat) : Prop :=
  ∀ log, ∃ inbound, Message.decode version (message, ⟨.ofBytes bytes, log⟩) =
      (match result with
        | .ok inventory => .ok () (⟨inventory⟩, inbound)
        | .error error => .error error (message, inbound)) ∧
    inbound.reader.bytesRead = consumed ∧ inbound.reader.source.bytes = bytes.drop consumed

theorem yields_of_inventory {bytes : Bytes} {result : Except DecodeError Inventory} {consumed : Nat}
    (h : (Inventory.decodeFor (kind.name ++ "::decode") version).Yields bytes result consumed) :
    message.Yields version bytes result consumed := by
  intro log
  obtain ⟨inbound, hrun, hread⟩ := h log
  refine ⟨inbound, ?_, hread⟩
  cases result with
  | ok inventory => exact message.decode_ok hrun
  | error error => exact message.decode_error hrun

end Gossip.InventoryOf

namespace Gossip.Inventory

/-- **Reading an inventory decides in this way**, and so does every message that carries one, under
its own name. -/
theorem decode_decides (version : ProtocolVersion) (bytes : Bytes) :
    Decides "InventoryList::decode" bytes ((decode version).Yields bytes) ∧
      ∀ (kind : MessageKind) (message : InventoryOf kind),
        Decides (kind.name ++ "::decode") bytes (message.Yields version bytes) :=
  ⟨decodeFor_decides _ version bytes, fun kind message =>
    (decodeFor_decides (kind.name ++ "::decode") version bytes).imp fun _ _ =>
      message.yields_of_inventory⟩

end Gossip.Inventory
