import Gossip.Bytes.CompactSize
import Gossip.Bytes.Octets
import Gossip.Stream.Error
import Gossip.Stream.Source

/-! Reading fields.

A reader is a source and the count of the bytes it has given. Reading a field either gives its value
or an error, and what was consumed stays consumed. A field of known width is read by `octets`, a
byte string of claimed length by `byteString`, which differ in the storage they use. No read looks
further than its field.

How much storage a byte string takes depends on the calls by which it is read, so these are kept
(`tracedByteString`); reading a byte string is this without the trace. -/
namespace Gossip.Stream

structure Reader where
  source : Source
  bytesRead : Nat := 0
  deriving DecidableEq, Repr

/-- A read that may fail. -/
abbrev Read := EStateM Error Reader

/-- A state with the read calls that have been made to get there. -/
structure Traced (σ : Type) where
  state : σ
  calls : List Source.ReadCall
  deriving DecidableEq, Repr

section
variable {ε σ α : Type}

/-- What a computation comes to, without the read calls that it makes. -/
def untraced (run : EStateM ε (Traced σ) α) : EStateM ε σ α := fun state =>
  match run ⟨state, []⟩ with
  | .ok value after => .ok value after.state
  | .error error after => .error error after.state

/-- The read calls that a computation makes. -/
def callsMade (run : EStateM ε (Traced σ) α) (state : σ) : List Source.ReadCall :=
  match run ⟨state, []⟩ with
  | .ok _ after => after.calls
  | .error _ after => after.calls

end

namespace Reader

def ofBytes (bytes : Bytes) : Reader := ⟨.ofBytes bytes, 0⟩

/-- The reader after a series of read calls, with the count of the bytes before it. -/
def advanced (before : Nat) (filled : Source.Fill) : Reader :=
  ⟨filled.rest, before + filled.got.length⟩

/-- The error of a series of read calls that ended early, with this many bytes of those needed. -/
def failure (need got : Nat) : Source.Stop → Error
  | .ended => .endOfStream need got
  | .failed fault => .transport fault

/-- Reads as many bytes as the type says. -/
def octets (width : Nat) : Read (Octets width) := fun ⟨source, before⟩ =>
  let filled := Source.fill 0 width source
  match stopped : filled.stop with
  | none => .ok ⟨filled.got, Source.length_fill stopped⟩ (advanced before filled)
  | some stop => .error (failure width filled.got.length stop) (advanced before filled)

/-- Fills a buffer. On failure its front holds what arrived and the rest is as it was. -/
def fillBuffer (buffer : Bytes) : EStateM Error (Bytes × Reader) Unit :=
  fun (_, ⟨source, before⟩) =>
  let filled := Source.fill 0 buffer.length source
  let after := (filled.got ++ buffer.drop filled.got.length, advanced before filled)
  match filled.stop with
  | none => .ok () after
  | some stop => .error (failure buffer.length filled.got.length stop) after

/-- Reads a byte string of a claimed length, chunk by chunk, and keeps the calls. -/
def tracedByteString (length : Nat) : EStateM Error (Traced Reader) Bytes :=
  fun ⟨⟨source, before⟩, calls⟩ =>
  let filled := Source.gather 0 length source
  let after : Traced Reader := ⟨advanced before filled, calls ++ filled.calls⟩
  match filled.stop with
  | none => .ok filled.got after
  | some stop => .error (failure length filled.got.length stop) after

/-- Reads a byte string of a claimed length. -/
def byteString (length : Nat) : Read Bytes := untraced (tracedByteString length)

/-- Reads a little-endian number of the given width. -/
def number (width : Nat) : Read Nat := do
  return LittleEndian.decode (← octets width).bytes

def u8 : Read UInt8 := UInt8.ofNat <$> number 1

def u16 : Read UInt16 := UInt16.ofNat <$> number 2

def u32 : Read UInt32 := UInt32.ofNat <$> number 4

def u64 : Read UInt64 := UInt64.ofNat <$> number 8

/-- Reads a compact size and refuses any form but the shortest. -/
def compactSize : Read UInt64 := do
  let first ← u8
  let width := CompactSize.tailWidth first
  if width = 0 then
    return first.toUInt64
  let value ← number width
  if value < CompactSize.leastOf width then
    throw (.nonCanonical (UInt64.ofNat value) (width + 1))
  return UInt64.ofNat value

end Reader
end Gossip.Stream
