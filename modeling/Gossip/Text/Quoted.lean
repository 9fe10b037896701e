import Gossip.Text.Unprintable

/-! Quoted text.

A text or a character is shown between quotes on one line: the quote itself, the backslash and the
four controls that have a letter are written with a backslash, and every other character without a
printed form as its code point in hexadecimal between braces. -/
namespace Gossip.Text.Quoted

/-- The code point of a character between braces, in as few hexadecimal digits as it takes. -/
def codePoint (c : Char) : List Char :=
  ['\\', 'u', '\x7b'] ++ Nat.toDigits 16 c.toNat ++ ['\x7d']

/-- One character as it stands between two quotes. -/
def escape (quote c : Char) : List Char :=
  if c = '\x00' then ['\\', '0']
  else if c = '\t' then ['\\', 't']
  else if c = '\r' then ['\\', 'r']
  else if c = '\n' then ['\\', 'n']
  else if c = quote ∨ c = '\\' then ['\\', c]
  else if isUnprintable c then codePoint c
  else [c]

/-- A text in double quotes. -/
def text (s : String) : String :=
  String.ofList ('"' :: (s.toList.flatMap (escape '"') ++ ['"']))

/-- A character in single quotes. -/
def character (c : Char) : String :=
  String.ofList ('\'' :: (escape '\'' c ++ ['\'']))

end Gossip.Text.Quoted
