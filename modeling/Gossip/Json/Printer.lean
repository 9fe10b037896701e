import Gossip.Json.Basic
import Gossip.Json.Token

/-! From a JSON value to tokens, and so to text. -/
namespace Gossip.Json

mutual

/-- Adds the tokens of a value to those before it; all lists of tokens have the last first. -/
def pushTokens (tokens : List Token) : Json → List Token
  | .null => .null :: tokens
  | .bool value => .bool value :: tokens
  | .number numeral => .number numeral :: tokens
  | .text content => .text content :: tokens
  | .array [] => .closeBracket :: .openBracket :: tokens
  | .array (element :: rest) =>
    .closeBracket :: pushElements (pushTokens (.openBracket :: tokens) element) rest
  | .object [] => .closeBrace :: .openBrace :: tokens
  | .object ((key, value) :: rest) =>
    .closeBrace :: pushMembers (pushTokens (.colon :: .text key :: .openBrace :: tokens) value) rest

/-- Adds the tokens of the elements after the first. -/
def pushElements (tokens : List Token) : List Json → List Token
  | [] => tokens
  | element :: rest => pushElements (pushTokens (.comma :: tokens) element) rest

/-- Adds the tokens of the members after the first. -/
def pushMembers (tokens : List Token) : List (Option String × Json) → List Token
  | [] => tokens
  | (key, value) :: rest =>
    pushMembers (pushTokens (.colon :: .text key :: .comma :: tokens) value) rest

end

/-- The tokens of a value. -/
def tokens (value : Json) : List Token := (pushTokens [] value).reverse

/-- The text of a value without any blanks. -/
def compact (value : Json) : String := Token.compact value.tokens

/-- The text of a value with an element or member a line. -/
def indented (value : Json) : String := Token.indented value.tokens

end Gossip.Json
