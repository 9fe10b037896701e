import Gossip.Bytes.LittleEndian
import Gossip.Stream.Fault

/-! Byte sinks.

A sink either follows a script, of which each write call takes the next event and after which
everything is taken, or has a fixed room. `writeAll` offers what is left again after a short write
and after an interrupted call, and makes no call when there is nothing to write. -/
namespace Gossip.Stream

/-- What a write call may meet. -/
inductive WriteEvent where
  /-- At most this many bytes are taken. -/
  | accept (limit : Nat)
  | fault (fault : Fault)
  deriving DecidableEq, Repr

/-- How a sink takes bytes. -/
inductive Intake where
  | script (events : List WriteEvent)
  | room (left : Nat)
  deriving DecidableEq, Repr

namespace Intake

/-- What became of bytes that were to be written: those taken, and the fault if not all were. -/
structure Offer where
  taken : Bytes
  failure : Option Fault
  rest : Intake
  deriving DecidableEq, Repr

/-- Offers bytes, of which there is at least one, until a script has had its say. -/
def offerScript : List WriteEvent → Bytes → Offer
  | [], bytes => ⟨bytes, none, .script []⟩
  | .fault fault :: events, bytes =>
    if fault.kind = .interrupted then offerScript events bytes
    else ⟨[], some fault, .script events⟩
  | .accept limit :: events, bytes =>
    match limit, bytes.drop limit with
    | 0, _ => ⟨[], some .outOfRoom, .script events⟩
    | _, [] => ⟨bytes, none, .script events⟩
    | _, left =>
      let later := offerScript events left
      { later with taken := bytes.take limit ++ later.taken }

/-- Offers bytes until all are taken or one write call fails. -/
def offer (intake : Intake) (bytes : Bytes) : Offer :=
  match bytes, intake with
  | [], _ => ⟨[], none, intake⟩
  | _, .script events => offerScript events bytes
  | _, .room left =>
    if bytes.length ≤ left then ⟨bytes, none, .room (left - bytes.length)⟩
    else ⟨bytes.take left, some .outOfRoom, .room 0⟩

end Intake

/-- A sink, with what it has taken so far, the last byte first. -/
structure Sink where
  intake : Intake
  flushFailure : Option Fault := none
  reversed : Bytes := []
  deriving DecidableEq, Repr

namespace Sink

/-- Takes everything. -/
def unbounded : Sink := { intake := .script [] }

/-- Has room for this many bytes. -/
def bounded (room : Nat) : Sink := { intake := .room room }

/-- What the sink has taken, in order. -/
def taken (sink : Sink) : Bytes := sink.reversed.reverse

/-- Writes all the bytes, or as many as the sink takes before a write call fails. -/
def writeAll (sink : Sink) (bytes : Bytes) : Option Fault × Sink :=
  let offer := sink.intake.offer bytes
  (offer.failure,
    { sink with intake := offer.rest, reversed := offer.taken.reverseAux sink.reversed })

end Sink
end Gossip.Stream
