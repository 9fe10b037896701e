import Gossip.Json.Basic
import Gossip.Json.Token

/-! From tokens to a JSON value.

The parser is a machine that takes one token at a time and keeps the containers that are still open
in a list, so that no depth of nesting is too much for it. -/
namespace Gossip.Json

/-- A container that is still open, with what it holds so far, last first. -/
inductive Container where
  | array (elements : List Json)
  /-- An object of which the value under a key is to come. -/
  | object (members : List (Option String × Json)) (key : Option String)

/-- Where the machine stands. The open containers come innermost first. -/
inductive Position where
  | beforeValue (outer : List Container)
  /-- Before the first element of an array or its end. -/
  | afterBracket (outer : List Container)
  /-- Before the first key of an object or its end. -/
  | afterBrace (outer : List Container)
  | beforeKey (members : List (Option String × Json)) (outer : List Container)
  | afterKey (members : List (Option String × Json)) (key : Option String) (outer : List Container)
  /-- Before a comma or the end of an array. -/
  | afterElement (elements : List Json) (outer : List Container)
  /-- Before a comma or the end of an object. -/
  | afterMember (members : List (Option String × Json)) (outer : List Container)
  /-- The value is complete. -/
  | done (value : Json)

namespace Position

/-- Puts a value that is complete where it belongs. -/
def place (value : Json) : List Container → Position
  | [] => .done value
  | .array elements :: outer => .afterElement (value :: elements) outer
  | .object members key :: outer => .afterMember ((key, value) :: members) outer

/-- A token where a value is to come. -/
def beginValue (outer : List Container) : Token → Option Position
  | .null => some (place .null outer)
  | .bool value => some (place (.bool value) outer)
  | .number numeral => some (place (.number numeral) outer)
  | .text content => some (place (.text content) outer)
  | .openBracket => some (.afterBracket outer)
  | .openBrace => some (.afterBrace outer)
  | _ => none

/-- One token. -/
def step : Position → Token → Option Position
  | .beforeValue outer, token => beginValue outer token
  | .afterBracket outer, .closeBracket => some (place (.array []) outer)
  | .afterBracket outer, token => beginValue (.array [] :: outer) token
  | .afterBrace outer, .closeBrace => some (place (.object []) outer)
  | .afterBrace outer, .text content => some (.afterKey [] content outer)
  | .beforeKey members outer, .text content => some (.afterKey members content outer)
  | .afterKey members content outer, .colon =>
    some (.beforeValue (.object members content :: outer))
  | .afterElement elements outer, .comma => some (.beforeValue (.array elements :: outer))
  | .afterElement elements outer, .closeBracket => some (place (.array elements.reverse) outer)
  | .afterMember members outer, .comma => some (.beforeKey members outer)
  | .afterMember members outer, .closeBrace => some (place (.object members.reverse) outer)
  | _, _ => none

/-- All tokens. -/
def run : Position → List Token → Option Position
  | position, [] => some position
  | position, token :: rest =>
    match step position token with
    | none => none
    | some position => run position rest

end Position

/-- The value that tokens spell. -/
def ofTokens? (tokens : List Token) : Option Json :=
  match Position.run (.beforeValue []) tokens with
  | some (.done value) => some value
  | _ => none

/-- The value that a text spells, with blanks around it and between its tokens. -/
def parse? (text : String) : Option Json := (Token.scan text).bind ofTokens?

end Gossip.Json
