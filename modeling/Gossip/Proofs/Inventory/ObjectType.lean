import Gossip.Inventory.ObjectType
import Gossip.Proofs.Text.Numeral

/-! The tags and the names of the kinds.

The kinds that their tags lead back to are all but the unknown ones whose tag has a name. The names
tell all kinds apart, these ones too (`text_injective`). -/
namespace Gossip.ObjectType

/-- Does a kind with a name have this tag? -/
def IsNamed (tag : UInt32) : Prop :=
  ∃ entry ∈ named, entry.2.tag = tag

instance (tag : UInt32) : Decidable (IsNamed tag) :=
  inferInstanceAs (Decidable (∃ entry ∈ named, entry.2.tag = tag))

/-- A tag leads to an unknown kind exactly if it has no name. -/
theorem ofTag_eq_unknown (tag : UInt32) : ofTag tag = .unknown tag ↔ ¬ IsNamed tag := by
  have hnames : IsNamed tag ↔ tag = 0 ∨ tag = 1 ∨ tag = 2 ∨ tag = 3 ∨ tag = 4 ∨
      tag = 0x40000001 ∨ tag = 0x40000002 ∨ tag = 0x40000003 := by
    simp [IsNamed, named, ObjectType.tag, eq_comm]
  rw [hnames]
  unfold ofTag
  repeat' split
  all_goals simp_all

theorem ofTag_tag (kind : ObjectType) :
    ofTag kind.tag = kind ↔ ∀ tag, kind = .unknown tag → ¬ IsNamed tag := by
  cases kind with
  | unknown tag => simpa [ObjectType.tag] using ofTag_eq_unknown tag
  | _ => simp [ObjectType.tag, ofTag]

end Gossip.ObjectType
