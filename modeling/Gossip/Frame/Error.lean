import Gossip.Digest.Checksum
import Gossip.Stream.Error
import Gossip.Text.Numeral

/-! Errors of decoding and encoding frames and messages. -/
namespace Gossip
open Text

/-- Which bound on payloads was passed. -/
inductive LimitKind where
  /-- The bound on every payload. -/
  | payloadBytes
  /-- The bound that a message sets for its own payload. -/
  | messagePayload
  deriving DecidableEq, Repr

namespace LimitKind

def text : LimitKind → String
  | .payloadBytes => "payload bytes"
  | .messagePayload => "message payload"

def diagnostic : LimitKind → String
  | .payloadBytes => "PayloadBytes"
  | .messagePayload => "MessagePayload"

end LimitKind

/-- What both kinds of errors say about too many items. -/
def tooManyItemsMessage (context : String) (count max : Nat) : String :=
  s!"{context}: too many items in message [{count} > {max}]"

def tooManyItemsDiagnostic (context : String) (count max : Nat) : String :=
  Diagnostic.record "TooManyItems"
    [("context", Quoted.text context), ("count", toString count), ("max", toString max)]

/-- What both kinds of errors say about a bound that was passed. -/
def overLimitMessage (kind : LimitKind) (limit actual : Nat) : String :=
  s!"{kind.text} limit exceeded: {actual} > {limit}"

def overLimitDiagnostic (kind : LimitKind) (limit actual : Nat) : String :=
  Diagnostic.record "LimitsExceeded"
    [("kind", kind.diagnostic), ("limit", toString limit), ("actual", toString actual)]

/-- Why a value that is there is not well formed. -/
inductive Malformation where
  | nonCanonicalSize (value : UInt64) (encodedLength : Nat)
  deriving DecidableEq, Repr

/-- Why a frame or a message was not decoded. -/
inductive DecodeError where
  | truncated (requested available : Nat)
  | malformed (reason : Malformation)
  | tooManyItems (context : String) (count max : Nat)
  | transport (fault : Stream.Fault)
  | wrongMagic (found expected : UInt32)
  | invalidCommand (field : Octets 12)
  | unknownCommand (command : String)
  | commandMismatch (expected found : String)
  | checksumMismatch (expected found : Checksum)
  | overLimit (kind : LimitKind) (limit actual : Nat)
  deriving DecidableEq, Repr

namespace DecodeError

/-- The decoding error that an error of the stream comes to. -/
def ofStream : Stream.Error → DecodeError
  | .endOfStream requested available => .truncated requested available
  | .nonCanonical value encodedLength => .malformed (.nonCanonicalSize value encodedLength)
  | .transport fault => .transport fault

def message : DecodeError → String
  | .truncated requested available =>
    s!"truncated: need {requested} bytes but only {available} available"
  | .malformed (.nonCanonicalSize value encodedLength) =>
    "malformed: " ++ Stream.Error.nonCanonicalMessage value encodedLength
  | .tooManyItems context count max => tooManyItemsMessage context count max
  | .transport fault => Stream.Error.faultMessage fault
  | .wrongMagic found expected =>
    s!"invalid magic number: 0x{Numeral.upperHex 8 found.toNat}, " ++
      s!"expected 0x{Numeral.upperHex 8 expected.toNat}"
  | .invalidCommand field =>
    "invalid command field: " ++
      Diagnostic.list (field.bytes.map fun byte => Numeral.upperHex 2 byte.toNat)
  | .unknownCommand command => "unknown command: " ++ Quoted.text command
  | .commandMismatch expected found =>
    "command mismatch: expected " ++ Quoted.text expected ++ ", found " ++ Quoted.text found
  | .checksumMismatch expected found =>
    let shown (checksum : Checksum) :=
      Diagnostic.list (checksum.bytes.map fun byte => Numeral.lowerHex 2 byte.toNat)
    "checksum mismatch: header " ++ shown expected ++ ", payload " ++ shown found
  | .overLimit kind limit actual => overLimitMessage kind limit actual

def diagnostic : DecodeError → String
  | .truncated requested available =>
    Diagnostic.record "Truncated"
      [("requested", toString requested), ("available", toString available)]
  | .malformed (.nonCanonicalSize value encodedLength) =>
    Diagnostic.tagged "Malformed" (Stream.Error.nonCanonicalDiagnostic value encodedLength)
  | .tooManyItems context count max => tooManyItemsDiagnostic context count max
  | .transport fault => Stream.Error.faultDiagnostic fault
  | .wrongMagic found expected =>
    Diagnostic.record "InvalidMagic"
      [("found", toString found), ("expected", toString expected)]
  | .invalidCommand field =>
    Diagnostic.record "InvalidCommand" [("raw", Diagnostic.bytes field.bytes)]
  | .unknownCommand command =>
    Diagnostic.record "UnknownCommand" [("command", Quoted.text command)]
  | .commandMismatch expected found =>
    Diagnostic.record "CommandMismatch"
      [("expected", Quoted.text expected), ("found", Quoted.text found)]
  | .checksumMismatch expected found =>
    Diagnostic.record "ChecksumMismatch"
      [("expected", Diagnostic.bytes expected.bytes), ("found", Diagnostic.bytes found.bytes)]
  | .overLimit kind limit actual => overLimitDiagnostic kind limit actual

end DecodeError

/-- Why a message was not encoded or not written. -/
inductive EncodeError where
  | tooManyItems (context : String) (count max : Nat)
  | overLimit (kind : LimitKind) (limit actual : Nat)
  | invalidCommand (command : String)
  | transport (fault : Stream.Fault)
  deriving DecidableEq, Repr

namespace EncodeError

/-- The encoding error that an error of the stream comes to. Writing meets only faults; anything
else is passed on as a fault of no particular kind. -/
def ofStream : Stream.Error → EncodeError
  | .transport fault => .transport fault
  | error => .transport ⟨.other, error.message⟩

def message : EncodeError → String
  | .tooManyItems context count max => tooManyItemsMessage context count max
  | .overLimit kind limit actual => overLimitMessage kind limit actual
  | .invalidCommand command =>
    "invalid command " ++ Quoted.text command ++ ": must be at most 12 printable ASCII bytes"
  | .transport fault => Stream.Error.faultMessage fault

def diagnostic : EncodeError → String
  | .tooManyItems context count max => tooManyItemsDiagnostic context count max
  | .overLimit kind limit actual => overLimitDiagnostic kind limit actual
  | .invalidCommand command =>
    Diagnostic.record "InvalidCommand" [("command", Quoted.text command)]
  | .transport fault => Stream.Error.faultDiagnostic fault

end EncodeError
end Gossip
