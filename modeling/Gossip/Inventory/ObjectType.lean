import Gossip.Text.Diagnostic
import Gossip.Text.Numeral

/-! What kind of object an inventory item names.

On the wire the kind is a 32-bit tag. Eight tags have names; every other tag is kept as it is, so
that an item of a kind yet unknown can be passed on. `tag_ofTag` says that no tag is lost. A value
`unknown tag` whose tag has a name is possible, and is the only kind that its tag does not lead
back to. -/
namespace Gossip

inductive ObjectType where
  | error
  | tx
  | block
  | filteredBlock
  | compactBlock
  | witnessTx
  | witnessBlock
  | witnessFilteredBlock
  | unknown (tag : UInt32)
  deriving DecidableEq, Repr

namespace ObjectType

/-- The kind with a tag. -/
def ofTag (tag : UInt32) : ObjectType :=
  if tag = 0 then .error
  else if tag = 1 then .tx
  else if tag = 2 then .block
  else if tag = 3 then .filteredBlock
  else if tag = 4 then .compactBlock
  else if tag = 0x40000001 then .witnessTx
  else if tag = 0x40000002 then .witnessBlock
  else if tag = 0x40000003 then .witnessFilteredBlock
  else .unknown tag

/-- The tag of a kind. -/
def tag : ObjectType → UInt32
  | .error => 0
  | .tx => 1
  | .block => 2
  | .filteredBlock => 3
  | .compactBlock => 4
  | .witnessTx => 0x40000001
  | .witnessBlock => 0x40000002
  | .witnessFilteredBlock => 0x40000003
  | .unknown tag => tag

/-- The name that the protocol gives the kind. -/
def text : ObjectType → String
  | .error => "MSG_ERROR"
  | .tx => "MSG_TX"
  | .block => "MSG_BLOCK"
  | .filteredBlock => "MSG_FILTERED_BLOCK"
  | .compactBlock => "MSG_CMPCT_BLOCK"
  | .witnessTx => "MSG_WITNESS_TX"
  | .witnessBlock => "MSG_WITNESS_BLOCK"
  | .witnessFilteredBlock => "MSG_FILTERED_WITNESS_BLOCK"
  | .unknown tag => "Unknown InvType (0x" ++ Text.Numeral.lowerHex 8 tag.toNat ++ ")"

/-- The kinds with a name, each under the word that stands for it in diagnostics and in JSON. -/
def named : List (String × ObjectType) :=
  [("Error", .error), ("Tx", .tx), ("Block", .block), ("FilteredBlock", .filteredBlock),
    ("CmpctBlock", .compactBlock), ("WitnessTx", .witnessTx), ("WitnessBlock", .witnessBlock),
    ("WitnessFilteredBlock", .witnessFilteredBlock)]

/-- The word that stands for a kind; all unknown kinds share one. -/
def word : ObjectType → String
  | .error => "Error"
  | .tx => "Tx"
  | .block => "Block"
  | .filteredBlock => "FilteredBlock"
  | .compactBlock => "CmpctBlock"
  | .witnessTx => "WitnessTx"
  | .witnessBlock => "WitnessBlock"
  | .witnessFilteredBlock => "WitnessFilteredBlock"
  | .unknown _ => "Unknown"

def diagnostic : ObjectType → String
  | .unknown tag => Text.Diagnostic.tagged "Unknown" (toString tag)
  | kind => kind.word

/-- Does the tag of the kind lead back to it? -/
def isCanonical (kind : ObjectType) : Bool := ofTag kind.tag = kind

theorem tag_ofTag (tag : UInt32) : (ofTag tag).tag = tag := by
  unfold ofTag
  repeat' split
  all_goals simp_all [ObjectType.tag]

end ObjectType
end Gossip
