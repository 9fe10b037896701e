import Gossip.Bytes.Octets
import Gossip.Text.Diagnostic
import Gossip.Text.Utf8

/-! Commands.

A command names the message that a frame carries: at most twelve bytes of printable ASCII, blanks
excluded. The header field is the name followed by zeros, so that a command has exactly one field,
and `ofField?` reads no other. -/
namespace Gossip

/-- Is the byte printable ASCII and no blank? -/
def isGraphic (byte : UInt8) : Bool := 0x21 ≤ byte && byte ≤ 0x7E

structure Command where
  name : Bytes
  fits : name.length ≤ 12
  graphic : name.all isGraphic = true
  deriving DecidableEq, Repr

namespace Command

/-- The width of the header field. -/
def width : Nat := 12

/-- The command with a text as its name. -/
def ofText? (text : String) : Option Command :=
  let name := Text.utf8 text
  if valid : name.length ≤ 12 ∧ name.all isGraphic = true then some ⟨name, valid.1, valid.2⟩
  else none

/-- The header field: the name, and zeros up to the width. -/
def field (command : Command) : Octets 12 :=
  ⟨command.name ++ List.replicate (12 - command.name.length) 0, by
    have := command.fits
    simp
    omega⟩

/-- The command with a header field: a name up to the first zero, and nothing but zeros after it. -/
def ofField? (field : Octets 12) : Option Command :=
  let name := field.bytes.takeWhile (· ≠ 0)
  let pad := field.bytes.dropWhile (· ≠ 0)
  if valid : name.all isGraphic = true ∧ pad.all (· = 0) = true then
    some ⟨name, field.length_eq ▸ (List.takeWhile_prefix _).length_le, valid.1⟩
  else none

/-- The name as text. -/
def text (command : Command) : String :=
  String.ofList (command.name.map fun byte => Char.ofNat byte.toNat)

def diagnostic (command : Command) : String :=
  Text.Diagnostic.tagged "Command" (Text.Quoted.text command.text)

end Command
end Gossip
