import Gossip.Frame.Codec
import Gossip.Proofs.Stream.Reading

/-! Decoders, field by field.

`Ahead` says where a decoder stands: so many bytes of what arrives are behind it, and these are
still ahead. In those words each field has two lemmas: its layout is ahead, and the decoder moves
past it; or less is ahead than the field needs, and the decoder reports what there was and the stop.

`Yields` says what a decoder comes to on a byte string. -/
namespace Gossip

/-- The error of a field that was cut short: so much was needed, so much arrived, and then the
stream stopped. -/
def DecodeError.cut (need got : Nat) (stop : Stream.Source.Stop) : DecodeError :=
  .ofStream (Stream.Reader.failure need got stop)

namespace Inbound

/-- What arrives before the first stop. -/
def arriving (inbound : Inbound) : Bytes := inbound.reader.arriving

def ending (inbound : Inbound) : Stream.Source.Stop := inbound.reader.ending

/-- What is left when this many more bytes have been read. -/
def skip (count : Nat) (inbound : Inbound) : Inbound :=
  {inbound with reader := inbound.reader.skip count}

/-- What is left when everything up to the stop has been read, and the stop met. -/
def drain (inbound : Inbound) : Inbound := {inbound with reader := inbound.reader.drain}

/-- The same with one record more. -/
def noting (inbound : Inbound) (entry : Log.Record) : Inbound :=
  {inbound with log := inbound.log ++ [entry]}

@[simp] theorem skip_zero (inbound : Inbound) : inbound.skip 0 = inbound := by
  simp [skip]

/-! ### Bytes behind and ahead -/

/-- With `count` bytes behind, `rest` is still ahead. -/
def Ahead (start : Inbound) (count : Nat) (rest : Bytes) : Prop :=
  ∃ behind, start.arriving = behind ++ rest ∧ behind.length = count

variable {start : Inbound} {count : Nat} {rest : Bytes}

theorem ahead_start (start : Inbound) : Ahead start 0 start.arriving := ⟨[], rfl, rfl⟩

theorem Ahead.next {front : Bytes} {width : Nat} (h : Ahead start count (front ++ rest))
    (hw : front.length = width) : Ahead start (count + width) rest := by
  obtain ⟨behind, harr, hc⟩ := h
  exact ⟨behind ++ front, by rw [harr, List.append_assoc], by rw [List.length_append, hc, hw]⟩

theorem Ahead.length_arriving (h : Ahead start count rest) :
    start.reader.arriving.length = count + rest.length := by
  obtain ⟨behind, harr, hc⟩ := h
  rw [show start.reader.arriving = behind ++ rest from harr, List.length_append, hc]

theorem Ahead.arriving_skip (h : Ahead start count rest) :
    (start.reader.skip count).arriving = rest := by
  obtain ⟨behind, harr, hc⟩ := h
  exact Stream.Reader.arriving_skip harr hc

theorem Ahead.ending_skip (h : Ahead start count rest) :
    (start.reader.skip count).ending = start.ending :=
  Stream.Reader.ending_skip (by rw [h.length_arriving]; exact Nat.le_add_right ..)

theorem Ahead.drain_skip (h : Ahead start count rest) :
    (start.reader.skip count).drain = start.reader.drain :=
  Stream.Reader.drain_skip (by rw [h.length_arriving]; exact Nat.le_add_right ..)

end Inbound

namespace Decoder
open Inbound (Ahead)
variable {α : Type} {start : Inbound} {count : Nat} {rest : Bytes}

/-! ### Single fields -/

theorem field_ok {read : Stream.Read α} {value : α} {width : Nat}
    (h : read (start.reader.skip count) = .ok value ((start.reader.skip count).skip width)) :
    field read (start.skip count) = .ok value (start.skip (count + width)) := by
  rw [Stream.Reader.skip_skip] at h
  simp only [field, Inbound.skip, h]

/-- A field that is cut short. -/
theorem field_cut {read : Stream.Read α} {need got : Nat} (hahead : Ahead start count rest)
    (h : read (start.reader.skip count) =
      .error (Stream.Reader.failure need got (start.reader.skip count).ending)
        (start.reader.skip count).drain) :
    field read (start.skip count) = .error (.cut need got start.ending) start.drain := by
  rw [hahead.ending_skip, hahead.drain_skip] at h
  simp only [field, Inbound.skip, Inbound.drain, h, DecodeError.cut]

theorem u32_front {n : UInt32} (h : Ahead start count (LittleEndian.encode 4 n.toNat ++ rest)) :
    field Stream.Reader.u32 (start.skip count) = .ok n (start.skip (count + 4)) :=
  field_ok (Stream.Reader.u32_front h.arriving_skip)

theorem u32_short (h : Ahead start count rest) (hl : rest.length < 4) :
    field Stream.Reader.u32 (start.skip count) =
      .error (.cut 4 rest.length start.ending) start.drain :=
  field_cut h (Stream.Reader.u32_short h.arriving_skip hl)

theorem octets_front {width : Nat} {octets : Octets width}
    (h : Ahead start count (octets.bytes ++ rest)) :
    field (Stream.Reader.octets width) (start.skip count) =
      .ok octets (start.skip (count + width)) :=
  field_ok (Stream.Reader.octets_front h.arriving_skip)

theorem octets_short {width : Nat} (h : Ahead start count rest) (hl : rest.length < width) :
    field (Stream.Reader.octets width) (start.skip count) =
      .error (.cut width rest.length start.ending) start.drain :=
  field_cut h (Stream.Reader.octets_short h.arriving_skip hl)

theorem byteString_front {bytes : Bytes} {length : Nat} (h : Ahead start count (bytes ++ rest))
    (hl : bytes.length = length) :
    field (Stream.Reader.byteString length) (start.skip count) =
      .ok bytes (start.skip (count + length)) :=
  field_ok (Stream.Reader.byteString_front h.arriving_skip hl)

theorem byteString_short {length : Nat} (h : Ahead start count rest) (hl : rest.length < length) :
    field (Stream.Reader.byteString length) (start.skip count) =
      .error (.cut length rest.length start.ending) start.drain :=
  field_cut h (Stream.Reader.byteString_short h.arriving_skip hl)

/-! ### Compact sizes -/

theorem compactSize_none (h : Ahead start count []) :
    field Stream.Reader.compactSize (start.skip count) =
      .error (.cut 1 0 start.ending) start.drain :=
  field_cut h (Stream.Reader.compactSize_none h.arriving_skip)

theorem compactSize_cut {first : UInt8} (h : Ahead start count (first :: rest))
    (hl : rest.length < CompactSize.tailWidth first) :
    field Stream.Reader.compactSize (start.skip count) =
      .error (.cut (CompactSize.tailWidth first) rest.length start.ending) start.drain :=
  field_cut h (Stream.Reader.compactSize_cut h.arriving_skip hl)

/-- A form that is longer than it need be. -/
theorem compactSize_wide {first : UInt8} {tail : Bytes}
    (h : Ahead start count (first :: (tail ++ rest)))
    (hl : tail.length = CompactSize.tailWidth first)
    (hs : CompactSize.size (CompactSize.valueOf first tail) < 1 + tail.length) :
    field Stream.Reader.compactSize (start.skip count) =
      .error (.malformed (.nonCanonicalSize (CompactSize.valueOf first tail) (1 + tail.length)))
        (start.skip (count + (1 + tail.length))) := by
  have hread := Stream.Reader.compactSize_form h.arriving_skip hl
  rw [← hl, if_pos hs, Stream.Reader.skip_skip] at hread
  simp only [field, Inbound.skip, hread, DecodeError.ofStream]

theorem compactSize_front {value : UInt64}
    (h : Ahead start count (CompactSize.encode value ++ rest)) :
    field Stream.Reader.compactSize (start.skip count) =
      .ok value (start.skip (count + CompactSize.size value)) :=
  field_ok (Stream.Reader.compactSize_front h.arriving_skip)

/-! ### Byte strings -/

/-- The result of a computation, with the state that it leaves. -/
def outcome (result : Except DecodeError α) (inbound : Inbound) :
    EStateM.Result DecodeError Inbound α :=
  match result with
  | .ok value => .ok value inbound
  | .error error => .error error inbound

/-- On a byte string the decoder has this result, whatever was recorded before; it has consumed so
many bytes, and all others are still to be read. -/
def Yields (decoder : Decoder α) (bytes : Bytes) (result : Except DecodeError α)
    (consumed : Nat) : Prop :=
  ∀ log, ∃ inbound, decoder ⟨.ofBytes bytes, log⟩ = outcome result inbound ∧
    inbound.reader.bytesRead = consumed ∧ inbound.reader.source.bytes = bytes.drop consumed

variable {decoder : Decoder α} {bytes : Bytes}

/-- Nothing of a byte string is behind a decoder that starts on it. -/
theorem ahead_ofBytes (bytes : Bytes) (log : Log) : Ahead ⟨.ofBytes bytes, log⟩ 0 bytes :=
  ⟨[], (Stream.Source.stretch_ofBytes bytes).1, rfl⟩

theorem eq_of_ahead_ofBytes {log : Log} (h : Ahead ⟨.ofBytes bytes, log⟩ 0 rest) : bytes = rest :=
  (ahead_ofBytes bytes log).arriving_skip.symm.trans h.arriving_skip

theorem ending_ofBytes (bytes : Bytes) (log : Log) :
    Inbound.ending ⟨.ofBytes bytes, log⟩ = .ended :=
  (Stream.Source.stretch_ofBytes bytes).2.1

theorem length_arriving_ofBytes (bytes : Bytes) :
    (Stream.Source.ofBytes bytes).arriving.length = bytes.length :=
  congrArg List.length (Stream.Source.stretch_ofBytes bytes).1

/-- What is left of a byte string when some of it has been read. -/
theorem bytes_skip_ofBytes {consumed : Nat} (hl : consumed ≤ bytes.length) :
    ((Stream.Source.ofBytes bytes).skip consumed).bytes = bytes.drop consumed := by
  rw [Stream.Source.bytes_skip _ _ (by rw [length_arriving_ofBytes]; exact hl)]
  simp [Stream.Source.ofBytes, Stream.Source.bytes]

theorem bytes_skip_front (front rest : Bytes) :
    ((Stream.Source.ofBytes (front ++ rest)).skip front.length).bytes = rest := by
  rw [bytes_skip_ofBytes (by rw [List.length_append]; exact Nat.le_add_right ..), List.drop_left]

theorem yields_skip {result : Except DecodeError α} {consumed : Nat}
    (hl : consumed ≤ bytes.length)
    (h : ∀ start : Inbound, Ahead start 0 bytes → ∃ log,
      decoder (start.skip 0) = outcome result {start.skip consumed with log}) :
    decoder.Yields bytes result consumed := by
  intro log
  obtain ⟨log', hrun⟩ := h _ (ahead_ofBytes bytes log)
  exact ⟨_, by rw [← hrun, Inbound.skip_zero], Nat.zero_add consumed, bytes_skip_ofBytes hl⟩

theorem yields_drain {need got : Nat}
    (h : ∀ start : Inbound, Ahead start 0 bytes →
      decoder (start.skip 0) = .error (.cut need got start.ending) start.drain) :
    decoder.Yields bytes (.error (.truncated need got)) bytes.length := by
  intro log
  have hrun := h _ (ahead_ofBytes bytes log)
  rw [ending_ofBytes, Inbound.skip_zero] at hrun
  refine ⟨_, hrun, ?_, ?_⟩
  · show 0 + (Stream.Source.ofBytes bytes).arriving.length = bytes.length
    rw [length_arriving_ofBytes, Nat.zero_add]
  show (Stream.Source.ofBytes bytes).resumed.bytes = _
  rw [(Stream.Source.stretch_ofBytes bytes).2.2, List.drop_length]
  rfl

end Decoder
end Gossip
