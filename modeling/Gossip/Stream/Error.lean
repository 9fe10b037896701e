import Gossip.Stream.Fault
import Gossip.Text.Diagnostic

/-! Errors of reading and writing single fields. -/
namespace Gossip.Stream
open Text

/-- Why a field was not read or written. -/
inductive Error where
  /-- The stream ended `available` bytes into a field of `requested`. -/
  | endOfStream (requested available : Nat)
  /-- A compact size stood in `encodedLength` bytes although it has a shorter form. -/
  | nonCanonical (value : UInt64) (encodedLength : Nat)
  /-- The transport failed. -/
  | transport (fault : Fault)
  deriving DecidableEq, Repr

namespace Error

/-- What is said about a fault, here and by every error that carries one. -/
def faultMessage (fault : Fault) : String :=
  "i/o error (" ++ fault.kind.name ++ "): " ++ fault.message

def nonCanonicalMessage (value : UInt64) (encodedLength : Nat) : String :=
  s!"non-canonical varint: value {value} encoded in {encodedLength} bytes"

def message : Error → String
  | .endOfStream requested available =>
    s!"unexpected end of stream: requested {requested} bytes but only {available} available"
  | .nonCanonical value encodedLength => nonCanonicalMessage value encodedLength
  | .transport fault => faultMessage fault

def faultDiagnostic (fault : Fault) : String :=
  Diagnostic.record "Io" [("kind", fault.kind.name), ("message", Quoted.text fault.message)]

def nonCanonicalDiagnostic (value : UInt64) (encodedLength : Nat) : String :=
  Diagnostic.record "NonCanonicalVarint"
    [("value", toString value), ("encoded_len", toString encodedLength)]

def diagnostic : Error → String
  | .endOfStream requested available =>
    Diagnostic.record "UnexpectedEof"
      [("requested", toString requested), ("available", toString available)]
  | .nonCanonical value encodedLength => nonCanonicalDiagnostic value encodedLength
  | .transport fault => faultDiagnostic fault

/-- Did the stream end too early? -/
def isEndOfStream : Error → Bool
  | .endOfStream .. => true
  | _ => false

end Error
end Gossip.Stream
