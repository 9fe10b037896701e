import Gossip.Proofs.Stream.Likeness

/-! Scripts of reads, and how the transport delivers.

A script is a list of requests to a reader, made one after the other whether they succeed or not.
What is seen of each step is the answer, the caller's buffer, the count of the reader and the bytes
that are still unread.

A source `Delivers` a byte string if its pieces put together are the byte string and nothing else
happens but interrupted calls. `run_delivers` says that a script then sees the byte string and
nothing of the pieces. `run_eq_runApart` says that a reader holds no byte back: each step may as
well have a reader of its own. -/
namespace Gossip.Stream

/-! ### Delivery -/

/-- The source gives these bytes, in pieces that are not empty, with any number of interrupted calls
before, between and behind them. -/
inductive Source.Delivers : Source → Bytes → Prop where
  | nil : Delivers [] []
  | interrupted {fault : Fault} {rest : Source} {bytes : Bytes} :
    fault.kind = .interrupted → Delivers rest bytes → Delivers (.fault fault :: rest) bytes
  | piece {piece : Bytes} {rest : Source} {bytes : Bytes} :
    piece ≠ [] → Delivers rest bytes → Delivers (.data piece :: rest) (piece ++ bytes)

namespace Source
variable {source : Source} {bytes : Bytes}

theorem Delivers.stretch (h : source.Delivers bytes) :
    source.arriving = bytes ∧ source.ending = .ended ∧ source.resumed = [] := by
  induction h with
  | nil => exact ⟨rfl, rfl, rfl⟩
  | interrupted hk _ ih =>
    simp only [arriving, ending, resumed, if_pos hk]
    exact ih
  | piece hp _ ih =>
    obtain ⟨harr, hend, hres⟩ := ih
    simp only [arriving, ending, resumed, if_neg hp, harr, hend, hres, and_self]

/-- A source that delivers a byte string is like the byte string in one piece. -/
theorem Delivers.alike (h : source.Delivers bytes) : source.Alike (ofBytes bytes) := by
  obtain ⟨harr, hend, hres⟩ := h.stretch
  obtain ⟨harr', hend', hres'⟩ := stretch_ofBytes bytes
  exact ⟨harr.trans harr'.symm, hend.trans hend'.symm, hres.trans hres'.symm⟩

end Source

/-! ### Requests -/

/-- What a reader can be asked for. -/
inductive Request where
  | u8
  | u16
  | u32
  | u64
  | compactSize
  | octets (width : Nat)
  | byteString (length : Nat)
  /-- As many bytes as the caller's buffer has, which holds these beforehand. -/
  | fillBuffer (buffer : Bytes)
  deriving DecidableEq, Repr

/-- What comes back of a request that succeeds. -/
inductive Answer where
  | u8 (value : UInt8)
  | u16 (value : UInt16)
  | u32 (value : UInt32)
  | u64 (value : UInt64)
  | bytes (bytes : Bytes)
  /-- The bytes are in the buffer. -/
  | filled
  deriving DecidableEq, Repr

namespace Request

/-- A read that has nothing to do with the buffer. -/
def beside (read : Read Answer) : EStateM Error (Bytes × Reader) Answer := fun (buffer, reader) =>
  match read reader with
  | .ok answer reader => .ok answer (buffer, reader)
  | .error error reader => .error error (buffer, reader)

/-- Makes a request of a reader, next to the caller's buffer. -/
def perform : Request → EStateM Error (Bytes × Reader) Answer
  | .u8 => beside (.u8 <$> Reader.u8)
  | .u16 => beside (.u16 <$> Reader.u16)
  | .u32 => beside (.u32 <$> Reader.u32)
  | .u64 => beside (.u64 <$> Reader.u64)
  | .compactSize => beside (.u64 <$> Reader.compactSize)
  | .octets width => beside ((fun octets => .bytes octets.bytes) <$> Reader.octets width)
  | .byteString length => beside (.bytes <$> Reader.byteString length)
  | .fillBuffer buffer => (fun _ => .filled) <$> Reader.fillBuffer buffer

variable {ahead : Nat}

theorem respects_beside {read : Read Answer} (h : Respects (Reader.Alike ahead) read) :
    Respects (Paired (Reader.Alike ahead)) (beside read) := by
  rintro ⟨buffer, a⟩ ⟨_, b⟩ ⟨rfl, hab⟩
  have hread := h a b hab
  simp only [beside]
  generalize read a = x, read b = y at hread
  cases hread with
  | ok hab => exact .ok ⟨rfl, hab⟩
  | error hab => exact .error ⟨rfl, hab⟩

theorem respects_fillBuffer (buffer : Bytes) :
    Respects (Paired (Reader.Alike ahead)) (Reader.fillBuffer buffer) := by
  rintro ⟨lent, a⟩ ⟨_, b⟩ ⟨rfl, hab⟩
  by_cases hl : a.arriving.length < buffer.length
  · rw [Reader.fillBuffer_short rfl hl,
      Reader.fillBuffer_short rfl (by rw [← hab.arriving]; exact hl), hab.arriving, hab.ending]
    exact .error ⟨rfl, hab.drain⟩
  · have hl := Nat.le_of_not_lt hl
    obtain ⟨field, rest, hrest⟩ := Octets.exists_front hl
    rw [Reader.fillBuffer_front hrest field.length_eq,
      Reader.fillBuffer_front (by rw [← hab.arriving]; exact hrest) field.length_eq]
    exact .ok ⟨rfl, hab.skip hl⟩

/-- No request tells readers apart that are alike. -/
theorem respects_perform (request : Request) :
    Respects (Paired (Reader.Alike ahead)) request.perform := by
  cases request with
  | u8 => exact respects_beside (Reader.respects_u8.map _)
  | u16 => exact respects_beside (Reader.respects_u16.map _)
  | u32 => exact respects_beside (Reader.respects_u32.map _)
  | u64 => exact respects_beside (Reader.respects_u64.map _)
  | compactSize => exact respects_beside (Reader.respects_compactSize.map _)
  | octets width => exact respects_beside ((Reader.respects_octets width).map _)
  | byteString length => exact respects_beside ((Reader.respects_byteString length).map _)
  | fillBuffer buffer => exact (respects_fillBuffer buffer).map _

end Request

/-! ### Runs of scripts -/

/-- What is seen between two steps. -/
structure Sight where
  buffer : Bytes
  bytesRead : Nat
  unread : Bytes
  deriving DecidableEq, Repr

/-- What is seen of a buffer and a reader, with the bytes that earlier readers counted. -/
def Sight.of (counted : Nat) (state : Bytes × Reader) : Sight :=
  ⟨state.1, counted + state.2.bytesRead, state.2.source.bytes⟩

namespace Request

/-- Makes the requests of one reader, and tells what is seen of each. -/
def run : List Request → Bytes × Reader → List (Except Error Answer × Sight)
  | [], _ => []
  | request :: rest, state =>
    let result := request.perform state
    seen (Sight.of 0) result :: run rest (endState result)

/-- Makes each request of a reader of its own around what is left of the source. The counts of the
readers are added up. -/
def runApart (counted : Nat) : List Request → Bytes × Source → List (Except Error Answer × Sight)
  | [], _ => []
  | request :: rest, (buffer, source) =>
    let result := request.perform (buffer, ⟨source, 0⟩)
    let after := endState result
    seen (Sight.of counted) result ::
      runApart (counted + after.2.bytesRead) rest (after.1, after.2.source)

theorem sight_eq {counted : Nat} {a b : Bytes × Reader}
    (h : Paired (Reader.Alike counted) a b) : Sight.of 0 a = Sight.of counted b := by
  obtain ⟨hbuffer, hsource, hread⟩ := h
  simp only [Sight.of, hbuffer, hsource.bytes, hread, Nat.zero_add, Nat.add_comm counted]

/-- A script sees the same of readers that are alike. -/
theorem run_alike (requests : List Request) {a b : Bytes × Reader}
    (h : Paired (Reader.Alike 0) a b) : run requests a = run requests b := by
  induction requests generalizing a b with
  | nil => rfl
  | cons request rest ih =>
    have hstep := request.respects_perform a b h
    rw [run, run, hstep.seen_eq fun _ _ => sight_eq, ih hstep.endState]

/-- **A script sees nothing of how the transport delivers.** -/
theorem run_delivers {source : Source} {bytes : Bytes} (h : source.Delivers bytes)
    (requests : List Request) (buffer : Bytes) (before : Nat) :
    run requests (buffer, ⟨source, before⟩) = run requests (buffer, ⟨.ofBytes bytes, before⟩) :=
  run_alike requests ⟨rfl, h.alike, rfl⟩

/-- **A reader holds nothing back**: a script sees the same if each step has a reader of its own. -/
theorem run_eq_runApart (requests : List Request) (buffer : Bytes) (reader : Reader)
    {source : Source} (h : reader.source.Alike source) :
    run requests (buffer, reader) = runApart reader.bytesRead requests (buffer, source) := by
  induction requests generalizing buffer reader source with
  | nil => rfl
  | cons request rest ih =>
    have hstart : Paired (Reader.Alike reader.bytesRead) (buffer, reader) (buffer, ⟨source, 0⟩) :=
      ⟨rfl, h, (Nat.zero_add _).symm⟩
    have hstep := request.respects_perform _ _ hstart
    obtain ⟨hbuffer, hsource, hread⟩ := hstep.endState
    rw [run, runApart, hstep.seen_eq fun _ _ => sight_eq, ← hbuffer,
      Nat.add_comm reader.bytesRead, ← hread]
    exact congrArg _ (ih _ _ hsource)

end Request
end Gossip.Stream
