import Gossip.Text.Utf8

/-! Paths.

A path, or a name in one, is bytes, among which only the slash means something. It need not be a
text; if it is not, it can still be shown. -/
namespace Gossip

structure Path where
  bytes : Bytes
  deriving DecidableEq, Repr

namespace Path

/-- The path that a text stands for. -/
def ofText (text : String) : Path := ⟨Text.utf8 text⟩

instance : Coe String Path := ⟨ofText⟩

/-- The text that the path is, if it is one. -/
def text? (path : Path) : Option String := Text.ofUtf8? path.bytes

/-- The path as it is shown to people. -/
def shown (path : Path) : String := Text.ofUtf8Lossy path.bytes

/-- The byte that separates the names in a path. -/
def slash : UInt8 := 0x2F

/-- The path of an entry of a directory. -/
def entry (directory name : Path) : Path :=
  match directory.bytes.getLast? with
  | none => name
  | some last =>
    if last = slash then ⟨directory.bytes ++ name.bytes⟩
    else ⟨directory.bytes ++ slash :: name.bytes⟩

end Path
end Gossip
