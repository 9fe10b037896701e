import Gossip.Report.Failure

/-! Items as people write them.

An item is given by its kind and its hash with a colon between them. The kind is a name in any case
or a tag, in decimal or, after `0x`, in hexadecimal; the hash is its text. -/
namespace Gossip.ItemSpec

/-- The names of the kinds that have one. -/
def typeNames : List (String × ObjectType) :=
  [("error", .error), ("tx", .tx), ("block", .block), ("filtered_block", .filteredBlock),
    ("cmpct_block", .compactBlock), ("witness_tx", .witnessTx), ("witness_block", .witnessBlock),
    ("witness_filtered_block", .witnessFilteredBlock)]

/-- Reads a tag. -/
def parseTag : List Char → Except Text.Numeral.Fault UInt32
  | '0' :: 'x' :: digits => Text.Numeral.read 16 digits
  | digits => Text.Numeral.read 10 digits

/-- Reads a kind. -/
def parseType (kind : List Char) : Except Failure ObjectType :=
  let lower := kind.map Char.toLower
  match typeNames.find? fun entry => entry.1.toList == lower with
  | some (_, type) => .ok type
  | none =>
    match parseTag lower with
    | .ok tag => .ok (.ofTag tag)
    | .error fault =>
      let shown := Text.Quoted.text (String.ofList kind)
      .error (.during ("unknown inventory type " ++ shown) (.numeral fault))

/-- Reads an item, its kind first. -/
def parse (spec : String) : Except Failure Item :=
  let kind := spec.toList.takeWhile (· ≠ ':')
  match spec.toList.dropWhile (· ≠ ':') with
  | [] => .error (.ofCause (.itemForm spec))
  | _ :: hash =>
    match parseType kind with
    | .error failure => .error failure
    | .ok type =>
      match ObjectHash.parse (String.ofList hash) with
      | .ok hash => .ok ⟨type, hash⟩
      | .error fault =>
        .error (.during ("invalid hash in item " ++ Text.Quoted.text spec) (.hash fault))

end Gossip.ItemSpec
