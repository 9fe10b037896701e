import Gossip.Bytes.LittleEndian

/-! The UTF-8 form of texts.

A byte string need not be the form of a text. Where it is not, it still has characters in it, and
between them pieces that are broken: each goes as far as some character goes that starts like it. -/
namespace Gossip.Text

/-- The bytes of a text in UTF-8. -/
def utf8 (text : String) : Bytes := text.toUTF8.data.toList

/-- The character at the front of a byte string, if there is one. -/
def front? (bytes : Bytes) : Option Char := (bytes.take 4).toByteArray.utf8DecodeChar? 0

/-- May these be the first two bytes of a character that takes more than two? -/
def goesOn (lead second : UInt8) : Bool :=
  if lead = 0xE0 then 0xA0 ≤ second && second ≤ 0xBF
  else if lead = 0xED then 0x80 ≤ second && second ≤ 0x9F
  else if lead = 0xF0 then 0x90 ≤ second && second ≤ 0xBF
  else if lead = 0xF4 then 0x80 ≤ second && second ≤ 0x8F
  else 0xE1 ≤ lead && lead ≤ 0xF3 && 0x80 ≤ second && second ≤ 0xBF

/-- How many more bytes belong to the broken piece that starts with a byte. -/
def brokenTail (lead : UInt8) : Bytes → Nat
  | [] => 0
  | [second] => if goesOn lead second then 1 else 0
  | second :: third :: _ =>
    if !goesOn lead second then 0
    else if 0xF0 ≤ lead ∧ 0x80 ≤ third ∧ third ≤ 0xBF then 2
    else 1

/-- The characters of a byte string, and nothing for each broken piece, from behind the bytes that
are skipped. -/
def scan (skipped : Nat) : Bytes → List (Option Char)
  | [] => []
  | byte :: rest =>
    match skipped with
    | skipped + 1 => scan skipped rest
    | 0 =>
      match front? (byte :: rest) with
      | some c => some c :: scan (c.utf8Size - 1) rest
      | none => none :: scan (brokenTail byte rest) rest

/-- The text of which these are the bytes. -/
def ofUtf8? (bytes : Bytes) : Option String := ((scan 0 bytes).mapM id).map String.ofList

/-- The text with a replacement character in the place of each broken piece. -/
def ofUtf8Lossy (bytes : Bytes) : String :=
  String.ofList ((scan 0 bytes).map fun character => character.getD '\uFFFD')

end Gossip.Text
