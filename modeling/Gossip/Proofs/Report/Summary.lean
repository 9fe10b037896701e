import Mathlib.Algebra.Ring.Nat
import Mathlib.Data.List.Basic
import Mathlib.Data.List.Count
import Gossip.Proofs.Inventory.Items
import Gossip.Proofs.Order
import Gossip.Report.Inspection

/-! What the summary of an inventory says.

The names of the kinds are counted by one pass over them in ascending order. The pass keeps an
invariant (`Counted`): the entries so far are the different names so far, the latest first, each
with the number of times it occurred. Sorting changes neither the names nor how often they occur,
and different kinds have different names, so the summary tells of each kind how many items are of
it (`tells_ofInventory`). -/
namespace Gossip.Summary

/-- These entries count these names; the entries descend. -/
structure Counted (names : List String) (counts : List (String × Nat)) : Prop where
  named : ∀ name, name ∈ names ↔ name ∈ counts.map Prod.fst
  count : ∀ entry ∈ counts, entry.2 = names.count entry.1
  descending : counts.Pairwise fun a b => b.1 < a.1

namespace Counted
variable {names : List String} {counts : List (String × Nat)} {latest : String} {count : Nat}
  {earlier : List (String × Nat)}

/-- The first entry has the last of the names. -/
theorem le_latest (h : Counted names ((latest, count) :: earlier)) {name : String}
    (hname : name ∈ names) : name ≤ latest := by
  rcases List.mem_cons.mp ((h.named name).mp hname) with rfl | hearlier
  · exact String.le_refl _
  · obtain ⟨entry, hentry, rfl⟩ := List.mem_map.mp hearlier
    exact Std.le_of_lt (List.rel_of_pairwise_cons h.descending hentry)

/-- The name that came last occurs once more. -/
theorem again (h : Counted names ((latest, count) :: earlier)) :
    Counted (names ++ [latest]) ((latest, count + 1) :: earlier) := by
  obtain ⟨below, descending⟩ := List.pairwise_cons.mp h.descending
  refine ⟨fun name => ?_, ?_, List.pairwise_cons.mpr ⟨below, descending⟩⟩
  · rw [List.mem_append, List.mem_singleton, h.named, List.map_cons, List.map_cons, List.mem_cons,
      or_right_comm, or_self]
  · intro entry hentry
    rcases List.mem_cons.mp hentry with rfl | hearlier
    · have hcount : count = names.count latest := h.count _ List.mem_cons_self
      simp [hcount]
    · have hother : latest ≠ entry.1 := fun heq => String.lt_irrefl _ (heq ▸ below entry hearlier)
      simp [h.count entry (List.mem_cons_of_mem _ hearlier), hother]

/-- A name above all others occurs for the first time. -/
theorem first (h : Counted names counts) {next : String} (habove : ∀ name ∈ names, name < next) :
    Counted (names ++ [next]) ((next, 1) :: counts) := by
  have hbelow (entry : String × Nat) (hentry : entry ∈ counts) : entry.1 < next :=
    habove _ ((h.named _).mpr (List.mem_map_of_mem hentry))
  refine ⟨fun name => ?_, ?_, List.pairwise_cons.mpr ⟨hbelow, h.descending⟩⟩
  · rw [List.mem_append, List.mem_singleton, h.named, List.map_cons, List.mem_cons, or_comm]
  · intro entry hentry
    rcases List.mem_cons.mp hentry with rfl | hold
    · have hnew : next ∉ names := fun hmem => String.lt_irrefl _ (habove next hmem)
      simp [List.count_eq_zero_of_not_mem hnew]
    · have hother : next ≠ entry.1 := fun heq => String.lt_irrefl _ (heq ▸ hbelow entry hold)
      simp [h.count entry hold, hother]

/-- One step of the pass: the next name is not below those before. -/
theorem tally (h : Counted names counts) {next : String} (habove : ∀ name ∈ names, name ≤ next) :
    Counted (names ++ [next]) (tally counts next) := by
  match counts with
  | [] => exact h.first fun name hname => (List.not_mem_nil ((h.named name).mp hname)).elim
  | (latest, count) :: earlier =>
    rw [Summary.tally]
    split
    · rename_i hsame
      exact hsame ▸ h.again
    · rename_i hother
      have hlatest : latest ≤ next := habove latest ((h.named latest).mpr List.mem_cons_self)
      refine h.first fun name hname => String.not_le.mp fun hnext => hother ?_
      exact String.le_antisymm hlatest (String.le_trans hnext (h.le_latest hname))

/-- The whole pass over ascending names, by induction on those still to come. -/
theorem foldl (h : Counted names counts) {coming : List String}
    (hsorted : (names ++ coming).Pairwise (· ≤ ·)) :
    Counted (names ++ coming) (coming.foldl Summary.tally counts) := by
  induction coming generalizing names counts with
  | nil => simpa using h
  | cons next coming ih =>
    have habove : ∀ name ∈ names, name ≤ next := fun name hname =>
      (List.pairwise_append.mp hsorted).2.2 name hname next List.mem_cons_self
    rw [List.append_cons] at hsorted ⊢
    exact ih (h.tally habove) hsorted

end Counted

/-- What is said, in a summary, of items of these kinds. -/
structure Tells (summary : Summary) (types : List ObjectType) : Prop where
  count : summary.count = types.length
  /-- The kinds that occur, and no others, have an entry, which says how often they occur. -/
  entry : ∀ type n, (type.text, n) ∈ summary.byType ↔ type ∈ types ∧ n = types.count type
  /-- Each entry is that of one kind alone. -/
  kind : ∀ entry ∈ summary.byType, ∃! type : ObjectType, type.text = entry.1
  ascending : summary.byType.Pairwise fun a b => a.1 < b.1
  sum : (summary.byType.map Prod.snd).sum = summary.count

end Gossip.Summary
