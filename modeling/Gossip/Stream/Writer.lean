import Gossip.Bytes.CompactSize
import Gossip.Stream.Error
import Gossip.Stream.Sink

/-! Writing fields.

A writer is a sink and the count of the bytes of the fields it has written whole. Each field goes to
the sink on its own; what the sink took of a field that failed stays in the sink but is not counted,
and nothing is written after it. -/
namespace Gossip.Stream

structure Writer where
  sink : Sink
  bytesWritten : Nat := 0
  deriving DecidableEq, Repr

/-- A write that may fail. -/
abbrev Write := EStateM Error Writer

namespace Writer

/-- A writer into memory. -/
def inMemory : Writer := ⟨.unbounded, 0⟩

/-- Writes one field. -/
def field (bytes : Bytes) : Write Unit := fun writer =>
  match writer.sink.writeAll bytes with
  | (none, sink) => .ok () ⟨sink, writer.bytesWritten + bytes.length⟩
  | (some fault, sink) => .error (.transport fault) ⟨sink, writer.bytesWritten⟩

/-- Writes fields in order, up to the first that fails. -/
def fields : List Bytes → Write Unit
  | [] => pure ()
  | bytes :: rest => fun writer =>
    match field bytes writer with
    | .ok () writer => fields rest writer
    | .error error writer => .error error writer

/-- Writes a number of a given width, least significant byte first. -/
def number (width n : Nat) : Write Unit := field (LittleEndian.encode width n)

def u8 (n : UInt8) : Write Unit := number 1 n.toNat

def u16 (n : UInt16) : Write Unit := number 2 n.toNat

def u32 (n : UInt32) : Write Unit := number 4 n.toNat

def u64 (n : UInt64) : Write Unit := number 8 n.toNat

/-- Writes a compact size in its shortest form. -/
def compactSize (value : UInt64) : Write Unit := fields (CompactSize.fields value)

/-- Passes a flush on to the sink, once. -/
def flush : Write Unit := fun writer =>
  match writer.sink.flushFailure with
  | none => .ok () writer
  | some fault => .error (.transport fault) writer

end Writer
end Gossip.Stream
