/-! JSON tokens.

`Token.scan` splits a text into tokens, reading it once from left to right. `Token.compact` and
`Token.indented` write tokens, without any blanks or with one element or member a line. -/
namespace Gossip.Json

inductive Token where
  | openBrace
  | closeBrace
  | openBracket
  | closeBracket
  | comma
  | colon
  | null
  | bool (value : Bool)
  | number (numeral : String)
  | text (content : Option String)
  deriving DecidableEq, Repr

/-! ### Numerals -/

/-- One digit or more. -/
def isDigits (cs : List Char) : Bool := !cs.isEmpty && cs.all Char.isDigit

/-- An exponent, or nothing. -/
def isExponent : List Char → Bool
  | [] => true
  | e :: sign :: digits =>
    (e = 'e' || e = 'E') &&
      (if sign = '+' || sign = '-' then isDigits digits else isDigits (sign :: digits))
  | _ => false

/-- A fraction and an exponent, each of which may be missing. -/
def isScale : List Char → Bool
  | '.' :: digits => isDigits (digits.takeWhile Char.isDigit) &&
    isExponent (digits.dropWhile Char.isDigit)
  | cs => isExponent cs

/-- A numeral without its sign: no zero stands before another digit. -/
def isMagnitude : List Char → Bool
  | '0' :: rest => isScale rest
  | c :: rest => c.isDigit && isScale (rest.dropWhile Char.isDigit)
  | [] => false

def isNumeral : List Char → Bool
  | '-' :: rest => isMagnitude rest
  | cs => isMagnitude cs

/-! ### Texts -/

/-- A piece of a text: a character, or half of a surrogate pair written as an escape. -/
inductive Piece where
  | char (c : Char)
  | half (unit : Nat)
  deriving DecidableEq, Repr

/-- The piece that an escape of four hexadecimal digits gives. -/
def Piece.ofUnit (unit : Nat) : Piece :=
  if 0xD800 ≤ unit ∧ unit < 0xE000 then .half unit else .char (Char.ofNat unit)

/-- Joins the halves of surrogate pairs; `reversed` holds the characters so far, last first. -/
def joinHalves (reversed : List Char) : List Piece → Option String
  | [] => some (String.ofList reversed.reverse)
  | .char c :: rest => joinHalves (c :: reversed) rest
  | .half high :: .half low :: rest =>
    if high < 0xDC00 ∧ 0xDC00 ≤ low then
      joinHalves (Char.ofNat (0x10000 + (high - 0xD800) * 0x400 + (low - 0xDC00)) :: reversed) rest
    else none
  | _ => none

/-- The character that a letter after a backslash stands for. -/
def escaped? : Char → Option Char
  | '"' => some '"'
  | '\\' => some '\\'
  | '/' => some '/'
  | 'b' => some '\x08'
  | 'f' => some '\x0c'
  | 'n' => some '\n'
  | 'r' => some '\r'
  | 't' => some '\t'
  | _ => none

/-- What a hexadecimal digit of either case is worth. -/
def hexValue? (c : Char) : Option Nat :=
  if '0' ≤ c ∧ c ≤ '9' then some (c.toNat - '0'.toNat)
  else if 'a' ≤ c ∧ c ≤ 'f' then some (c.toNat - 'a'.toNat + 10)
  else if 'A' ≤ c ∧ c ≤ 'F' then some (c.toNat - 'A'.toNat + 10)
  else none

/-! ### Scanning -/

/-- Where a scan is; all lists have the last first. -/
inductive Place where
  /-- Between tokens. -/
  | between
  /-- In a run of characters of words and numerals. -/
  | run (characters : List Char)
  /-- In a text. -/
  | text (pieces : List Piece)
  /-- After a backslash in a text. -/
  | escape (pieces : List Piece)
  /-- In an escape with some digits to come and the value of those before. -/
  | unit (pieces : List Piece) (left value : Nat)
  deriving DecidableEq, Repr

namespace Token

def isBlank (c : Char) : Bool := c = ' ' || c = '\t' || c = '\n' || c = '\r'

/-- May a character stand in a word or a numeral? -/
def isRun (c : Char) : Bool := c.isAlphanum || c = '-' || c = '+' || c = '.'

/-- The token that a run of characters is. -/
def ofRun? (characters : List Char) : Option Token :=
  if characters = ['n', 'u', 'l', 'l'] then some .null
  else if characters = ['t', 'r', 'u', 'e'] then some (.bool true)
  else if characters = ['f', 'a', 'l', 's', 'e'] then some (.bool false)
  else if isNumeral characters then some (.number (String.ofList characters))
  else none

/-- The token that is a single character. -/
def ofMark? : Char → Option Token
  | '\x7b' => some .openBrace
  | '\x7d' => some .closeBrace
  | '[' => some .openBracket
  | ']' => some .closeBracket
  | ',' => some .comma
  | ':' => some .colon
  | _ => none

/-- One character between tokens. -/
def start (tokens : List Token) (c : Char) : Option (List Token × Place) :=
  if isBlank c then some (tokens, .between)
  else if isRun c then some (tokens, .run [c])
  else if c = '"' then some (tokens, .text [])
  else (ofMark? c).map fun token => (token :: tokens, .between)

/-- One character, given the tokens so far, last first, and the place. -/
def step (tokens : List Token) : Place → Char → Option (List Token × Place)
  | .between, c => start tokens c
  | .run characters, c =>
    if isRun c then some (tokens, .run (c :: characters))
    else match ofRun? characters.reverse with
      | none => none
      | some token => start (token :: tokens) c
  | .text pieces, c =>
    if c = '"' then some (.text (joinHalves [] pieces.reverse) :: tokens, .between)
    else if c = '\\' then some (tokens, .escape pieces)
    else if c.toNat < 0x20 then none
    else some (tokens, .text (.char c :: pieces))
  | .escape pieces, c =>
    if c = 'u' then some (tokens, .unit pieces 4 0)
    else (escaped? c).map fun meant => (tokens, .text (.char meant :: pieces))
  | .unit pieces left value, c =>
    match hexValue? c with
    | none => none
    | some digit =>
      if left = 1 then some (tokens, .text (.ofUnit (value * 16 + digit) :: pieces))
      else some (tokens, .unit pieces (left - 1) (value * 16 + digit))

/-- The tokens at the end of a text. -/
def finish (tokens : List Token) : Place → Option (List Token)
  | .between => some tokens.reverse
  | .run characters => (ofRun? characters.reverse).map fun token => (token :: tokens).reverse
  | _ => none

/-- The tokens of a text, given those so far, last first, and the place. -/
def scanFrom (tokens : List Token) (place : Place) : List Char → Option (List Token)
  | [] => finish tokens place
  | c :: rest =>
    match step tokens place c with
    | none => none
    | some (tokens, place) => scanFrom tokens place rest

/-- The tokens of a text. -/
def scan (text : String) : Option (List Token) := scanFrom [] .between text.toList

/-! ### Writing -/

/-- A character as it is written in a text. -/
def escape (c : Char) : List Char :=
  if c = '"' then ['\\', '"']
  else if c = '\\' then ['\\', '\\']
  else if c = '\x08' then ['\\', 'b']
  else if c = '\x0c' then ['\\', 'f']
  else if c = '\n' then ['\\', 'n']
  else if c = '\r' then ['\\', 'r']
  else if c = '\t' then ['\\', 't']
  else if c.toNat < 0x20 then
    ['\\', 'u', '0', '0', Nat.digitChar (c.toNat / 16), Nat.digitChar (c.toNat % 16)]
  else [c]

/-- A token as it is written. A text that stands for no string is written as half of a surrogate
pair. -/
def written : Token → String
  | .openBrace => "\x7b"
  | .closeBrace => "\x7d"
  | .openBracket => "["
  | .closeBracket => "]"
  | .comma => ","
  | .colon => ":"
  | .null => "null"
  | .bool true => "true"
  | .bool false => "false"
  | .number numeral => numeral
  | .text none => "\"\\ud800\""
  | .text (some content) => String.ofList ('"' :: (content.toList.flatMap escape ++ ['"']))

/-- Tokens one after the other. -/
def compact (tokens : List Token) : String :=
  tokens.foldl (fun out token => out ++ token.written) ""

/-- A new line at some depth. -/
def newLine (depth : Nat) : String := "\n".pushn ' ' (2 * depth)

/-- Writes tokens after what is written already, at some depth. -/
def indentFrom (depth : Nat) (out : String) : List Token → String
  | [] => out
  | .openBrace :: .closeBrace :: rest => indentFrom depth (out ++ "\x7b\x7d") rest
  | .openBracket :: .closeBracket :: rest => indentFrom depth (out ++ "[]") rest
  | .openBrace :: rest => indentFrom (depth + 1) (out ++ "\x7b" ++ newLine (depth + 1)) rest
  | .openBracket :: rest => indentFrom (depth + 1) (out ++ "[" ++ newLine (depth + 1)) rest
  | .closeBrace :: rest => indentFrom (depth - 1) (out ++ newLine (depth - 1) ++ "\x7d") rest
  | .closeBracket :: rest => indentFrom (depth - 1) (out ++ newLine (depth - 1) ++ "]") rest
  | .comma :: rest => indentFrom depth (out ++ "," ++ newLine depth) rest
  | .colon :: rest => indentFrom depth (out ++ ": ") rest
  | token :: rest => indentFrom depth (out ++ token.written) rest

/-- Tokens with each element and member on a line of its own, two blanks further in than what it
belongs to; what is empty stays on one line. -/
def indented (tokens : List Token) : String := indentFrom 0 "" tokens

end Token
end Gossip.Json
