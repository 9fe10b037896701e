import Gossip.Frame.Error
import Gossip.Log
import Gossip.Stream.Reader
import Gossip.Stream.Writer

/-! Decoding from a reader and encoding to a writer.

A decoder reads fields and logs what it makes of them; what it has read and logged stays when it
fails. An encoder writes fields. -/
namespace Gossip

/-- A reader and the records made so far. -/
structure Inbound where
  reader : Stream.Reader
  log : Log := []
  deriving DecidableEq, Repr

abbrev Decoder := EStateM DecodeError Inbound

/-- A decoder that keeps the calls by which it reads byte strings of a claimed length. -/
abbrev TracedDecoder := EStateM DecodeError (Stream.Traced Inbound)

/-- A decoder that reads no such byte string adds no calls. -/
instance : MonadLift Decoder TracedDecoder where
  monadLift decoder := fun ⟨inbound, calls⟩ =>
    match decoder inbound with
    | .ok value inbound => .ok value ⟨inbound, calls⟩
    | .error error inbound => .error error ⟨inbound, calls⟩

namespace Decoder

/-- Reads a byte string of a claimed length and keeps the calls. -/
def tracedByteString (length : Nat) : TracedDecoder Bytes := fun ⟨⟨reader, log⟩, calls⟩ =>
  match Stream.Reader.tracedByteString length ⟨reader, calls⟩ with
  | .ok bytes ⟨reader, calls⟩ => .ok bytes ⟨⟨reader, log⟩, calls⟩
  | .error error ⟨reader, calls⟩ => .error (.ofStream error) ⟨⟨reader, log⟩, calls⟩

/-- Reads a field. -/
def field {α : Type} (read : Stream.Read α) : Decoder α := fun ⟨reader, log⟩ =>
  match read reader with
  | .ok value reader => .ok value ⟨reader, log⟩
  | .error error reader => .error (.ofStream error) ⟨reader, log⟩

/-- Makes a record. -/
def record (entry : Log.Record) : Decoder Unit := fun inbound =>
  .ok () { inbound with log := inbound.log ++ [entry] }

/-- Warns that something is rejected, and why. -/
def reject {α : Type} (origin : Log.Origin) (warning : String) (error : DecodeError) :
    Decoder α := do
  record ⟨.warn, origin, warning⟩
  throw error

end Decoder

abbrev Encoder := EStateM EncodeError Stream.Writer

namespace Encoder

/-- Writes fields in order. -/
def fields (fields : List Bytes) : Encoder Unit := fun writer =>
  match Stream.Writer.fields fields writer with
  | .ok () writer => .ok () writer
  | .error error writer => .error (.ofStream error) writer

end Encoder
end Gossip
