import Gossip.Text.Numeral

/-! JSON values.

A text whose escapes leave half of a surrogate pair on its own stands for no string. Such a text is
well formed and may be skipped, so it is kept, as `none`, but nothing can be read from it. A number
is kept as it is written. -/
namespace Gossip

inductive Json where
  | null
  | bool (value : Bool)
  | number (numeral : String)
  | text (content : Option String)
  | array (elements : List Json)
  | object (members : List (Option String × Json))
  deriving Repr

namespace Json

def ofString (content : String) : Json := .text (some content)

def ofNat (n : Nat) : Json := .number (toString n)

/-- An object with its members in the given order. -/
def ofFields (fields : List (String × Json)) : Json :=
  .object (fields.map fun field => (some field.1, field.2))

/-- The text that a value is. -/
def text? : Json → Option String
  | .text content => content
  | _ => none

/-- The unsigned 32-bit number that a value is, if it is written as digits alone. -/
def uint32? : Json → Option UInt32
  | .number numeral =>
    match Text.Numeral.readDigits 10 0 numeral.toList with
    | .ok value => some (UInt32.ofNat value)
    | .error _ => none
  | _ => none

/-- The values under names that an object must have once each, in the order of the names; further
members are skipped. An array of as many elements gives them by their places. -/
def fields? (names : List String) : Json → Option (List Json)
  | .array elements => if elements.length = names.length then some elements else none
  | .object members =>
    if members.all fun member => member.1.isSome then
      names.mapM fun name =>
        match members.filter fun member => member.1 == some name with
        | [(_, value)] => some value
        | _ => none
    else none
  | _ => none

end Json
end Gossip
