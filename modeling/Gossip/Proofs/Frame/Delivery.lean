import Gossip.Proofs.Frame.Tracing
import Gossip.Proofs.Stream.Script

/-! Decoders, and how the transport delivers.

What is seen of a decoder is its result, the count of its reader, the bytes that are still unread
and the records. If each field respects the likeness of readers then so does the whole decoder, and
`Source.Delivers.unseen` turns this into what is seen on a source that delivers a byte string. The
decoders of headers and of frames are made of such fields. -/
namespace Gossip
open Gossip.Stream (Source)

namespace Inbound

/-- Readers that are alike, and the same records. -/
structure Alike (ahead : Nat) (a b : Inbound) : Prop where
  reader : a.reader.Alike ahead b.reader
  log : a.log = b.log

/-- What is seen of a stream: the count, the bytes that are still unread, and the records. -/
def sight (inbound : Inbound) : Nat × Bytes × Log :=
  (inbound.reader.bytesRead, inbound.reader.source.bytes, inbound.log)

theorem Alike.sight_eq {a b : Inbound} (h : Alike 0 a b) : a.sight = b.sight := by
  obtain ⟨⟨hsource, hread⟩, hlog⟩ := h
  rw [sight, sight, hread, Nat.add_zero, hsource.bytes, hlog]

end Inbound

/-- A source that delivers a byte string is, to a stream that starts on it, like the byte string in
one piece. -/
theorem Stream.Source.Delivers.inbound {source : Source} {bytes : Bytes}
    (h : source.Delivers bytes) (before : Nat) (log : Log) :
    Inbound.Alike 0 ⟨⟨source, before⟩, log⟩ ⟨⟨.ofBytes bytes, before⟩, log⟩ :=
  ⟨⟨h.alike, rfl⟩, rfl⟩

namespace Decoder
variable {α : Type} {ahead : Nat}

/-- The decoder comes to the same on two sources, whatever was read and recorded before, and leaves
the same to be seen. -/
def SeesAlike (decoder : Decoder α) (a b : Source) : Prop :=
  ∀ before log, seen Inbound.sight (decoder ⟨⟨a, before⟩, log⟩) =
    seen Inbound.sight (decoder ⟨⟨b, before⟩, log⟩)

/-- A decoder that respects likeness sees nothing of how the transport delivers. -/
theorem seesAlike {decoder : Decoder α} (hd : Respects (Inbound.Alike 0) decoder)
    {source : Source} {bytes : Bytes} (h : source.Delivers bytes) :
    decoder.SeesAlike source (.ofBytes bytes) := by
  intro before log
  exact (hd _ _ (h.inbound before log)).seen_eq fun _ _ => Inbound.Alike.sight_eq

/-! ### What decoders are made of -/

theorem respects_field {read : Stream.Read α} (h : Respects (Stream.Reader.Alike ahead) read) :
    Respects (Inbound.Alike ahead) (field read) := by
  rintro ⟨a, log⟩ ⟨b, _⟩ ⟨hab, rfl⟩
  have hread := h a b hab
  simp only [field]
  generalize read a = x, read b = y at hread
  cases hread with
  | ok hab => exact .ok ⟨hab, rfl⟩
  | error hab => exact .error ⟨hab, rfl⟩

theorem respects_record (entry : Log.Record) :
    Respects (Inbound.Alike ahead) (record entry) := by
  rintro ⟨a, log⟩ ⟨b, _⟩ ⟨hab, rfl⟩
  exact .ok ⟨hab, rfl⟩

theorem respects_reject (origin : Log.Origin) (warning : String) (error : DecodeError) :
    Respects (Inbound.Alike ahead) (reject (α := α) origin warning error) :=
  (respects_record _).bind fun _ => .throw error

end Decoder

/-! ### Headers and frames -/

theorem Header.respects_decode {ahead : Nat} : Respects (Inbound.Alike ahead) decode := by
  refine (Decoder.respects_field Stream.Reader.respects_u32).bind fun magic => ?_
  refine (Decoder.respects_field (Stream.Reader.respects_octets 12)).bind fun field => ?_
  cases Command.ofField? field with
  | none => exact .throw _
  | some command =>
    refine (Decoder.respects_field Stream.Reader.respects_u32).bind fun length => ?_
    refine (Decoder.respects_field (Stream.Reader.respects_octets 4)).bind fun checksum => ?_
    exact .pure _

theorem Frame.respects_read {ahead : Nat} (network : Network) (limits : Limits) :
    Respects (Inbound.Alike ahead) (read network limits) := by
  rw [read_eq]
  refine Header.respects_decode.bind fun header => ?_
  refine .ite (Decoder.respects_reject _ _ _) (.ite (Decoder.respects_reject _ _ _) ?_)
  refine (Decoder.respects_field (Stream.Reader.respects_byteString _)).bind fun payload => ?_
  refine .ite (Decoder.respects_reject _ _ _) ?_
  exact (Decoder.respects_record _).bind fun _ => .pure _

end Gossip
