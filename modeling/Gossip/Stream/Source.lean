import Gossip.Bytes.LittleEndian
import Gossip.Stream.Fault

/-! Byte sources.

A source is the finite sequence of what its read calls meet: data, of which a call takes at most
what it asks for, and faults, which a call takes whole. A call that meets an empty piece of data, or
nothing, finds the end of the stream.

`fill` makes calls until it has what it needs. `gather` does the same in chunks of at most
`chunkSize` bytes, so that storage grows with what arrives and not with what is asked for. Both
record their calls, each with the storage held and the bytes received when it was made; the
results are what they are without that record. -/
namespace Gossip.Stream

/-- What a read call may meet. -/
inductive ReadEvent where
  | data (bytes : Bytes)
  | fault (fault : Fault)
  deriving DecidableEq, Repr

/-- What the read calls to come will meet. -/
abbrev Source := List ReadEvent

namespace Source

/-- The bytes of one piece of data, and then the end of the stream. -/
def ofBytes (bytes : Bytes) : Source := [.data bytes]

/-- All bytes that are still to come, in order. -/
def bytes : Source → Bytes
  | [] => []
  | .data piece :: rest => piece ++ bytes rest
  | .fault _ :: rest => bytes rest

/-- How many bytes are still to come. -/
def remaining : Source → Nat
  | [] => 0
  | .data piece :: rest => piece.length + remaining rest
  | .fault _ :: rest => remaining rest

/-- Why a series of read calls ended before everything that was needed had arrived. -/
inductive Stop where
  /-- The stream ended. -/
  | ended
  /-- The transport failed. -/
  | failed (fault : Fault)
  deriving DecidableEq, Repr

/-- One read call: the storage held and the bytes received when it was made, and what it asked
for. -/
structure ReadCall where
  storage : Nat
  received : Nat
  asked : Nat
  deriving DecidableEq, Repr

/-- What a series of read calls comes to. -/
structure Fill where
  got : Bytes
  /-- Nothing, if everything that was needed has arrived. -/
  stop : Option Stop
  rest : Source
  calls : List ReadCall
  deriving DecidableEq, Repr

/-- Nothing was needed, and no call was made. -/
def Fill.nothing (source : Source) : Fill := ⟨[], none, source, []⟩

/-- The same series with earlier bytes and calls in front. -/
def Fill.after (later : Fill) (got : Bytes) (calls : List ReadCall) : Fill :=
  { later with got := got ++ later.got, calls := calls ++ later.calls }

/-- Makes read calls until `need` bytes have arrived, into storage that already holds `received`
others. An interrupted call is made again, and a fault that says the stream has ended is its end. -/
def fill (received need : Nat) (source : Source) : Fill :=
  if need = 0 then .nothing source
  else
    let call : ReadCall := ⟨received + need, received, need⟩
    match source with
    | [] => ⟨[], some .ended, [], [call]⟩
    | .fault fault :: rest =>
      match fault.kind with
      | .interrupted => (fill received need rest).after [] [call]
      | .unexpectedEof => ⟨[], some .ended, rest, [call]⟩
      | _ => ⟨[], some (.failed fault), rest, [call]⟩
    | .data piece :: rest =>
      let got := piece.take need
      match piece.drop need with
      | [] =>
        if got = [] then ⟨[], some .ended, rest, [call]⟩
        else (fill (received + got.length) (need - got.length) rest).after got [call]
      | left => ⟨got, none, .data left :: rest, [call]⟩

/-- No chunk is larger than this. -/
def chunkSize : Nat := 65536

/-- Fills chunk after chunk until `missing` bytes have arrived on top of those `received`. -/
def gather (received missing : Nat) (source : Source) : Fill :=
  if missing = 0 then .nothing source
  else
    let chunk := min missing chunkSize
    let filled := fill received chunk source
    match filled.stop with
    | none =>
      (gather (received + chunk) (missing - chunk) filled.rest).after filled.got filled.calls
    | some _ => filled
termination_by missing
decreasing_by
  have : 0 < chunkSize := by decide
  omega

theorem length_fill {received need : Nat} {source : Source}
    (full : (fill received need source).stop = none) :
    (fill received need source).got.length = need := by
  induction source generalizing received need with
  | nil =>
    unfold fill at full ⊢
    split at full <;> simp_all [Fill.nothing]
  | cons event rest ih =>
    unfold fill at full ⊢
    split at full
    · simp_all [Fill.nothing]
    · rename_i needed
      simp only [needed, if_false]
      cases event with
      | fault fault =>
        simp only at full ⊢
        split at full <;> simp_all [Fill.after]
      | data piece =>
        simp only at full ⊢
        split at full
        · rename_i used
          split at full
          · simp at full
          · rename_i some
            simp only [some, if_false]
            simp only [Fill.after, List.length_append] at full ⊢
            rw [ih full]
            have := List.length_take_le need piece
            omega
        · rename_i left more
          have : piece.drop need ≠ [] := more
          have := mt (List.drop_eq_nil_iff (l := piece) (i := need)).2 this
          simp
          omega

end Source
end Gossip.Stream
