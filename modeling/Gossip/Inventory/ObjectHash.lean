import Gossip.Bytes.Hex
import Gossip.Text.Diagnostic

/-! Hashes that name objects.

A hash is thirty-two bytes in the order of the wire. Its text is hexadecimal and starts with the
last of them. -/
namespace Gossip

structure ObjectHash where
  octets : Octets 32
  deriving DecidableEq, Repr

namespace ObjectHash

/-- How many bytes a hash takes. -/
def size : Nat := 32

/-- All zeros. -/
def zero : ObjectHash := ⟨.zero 32⟩

instance : Inhabited ObjectHash := ⟨zero⟩

/-- The bytes in the order of the wire. -/
def bytes (hash : ObjectHash) : Bytes := hash.octets.bytes

def text (hash : ObjectHash) : String := Hex.encode hash.octets.reverse.bytes

def diagnostic (hash : ObjectHash) : String := Text.Diagnostic.tagged "Hash256" hash.text

def parse (text : String) : Except Hex.Fault ObjectHash :=
  match Hex.decode 32 text with
  | .error fault => .error fault
  | .ok octets => .ok ⟨octets.reverse⟩

/-- Hashes are ordered by their bytes in the order of the wire, the first that differ deciding. -/
instance : Ord ObjectHash := ⟨fun a b => compare a.bytes b.bytes⟩

end ObjectHash
end Gossip
