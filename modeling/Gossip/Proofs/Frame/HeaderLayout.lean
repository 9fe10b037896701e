import Gossip.Proofs.Frame.Acceptance
import Gossip.Proofs.Stream.Offering

/-! Headers and their layouts determine each other.

A header goes out as the twenty-four bytes of its layout and is read back from them, whatever
follows. In the other direction the layout of a header that is read is what was read, so that no
two byte strings of twenty-four bytes are read as the same header; and a command field is all that
can be wrong with so many bytes (`layout_exact`). -/
namespace Gossip

/-- Where no failure lies ahead, fields go out whole, one behind the other. -/
theorem Encoder.fields_faultless (list : List Bytes) {writer : Stream.Writer}
    (h : writer.sink.intake.failure? = none) :
    ∃ after, fields list writer = .ok () after ∧
      after.sink.taken = writer.sink.taken ++ list.flatten ∧
      after.bytesWritten = writer.bytesWritten + list.flatten.length := by
  obtain ⟨offer, htakes, hends⟩ := Stream.Writer.fields_takes list writer
  cases htakes with
  | part hfault _ _ =>
    rw [h] at hfault
    cases hfault
  | all _ =>
    simp only [fields]
    generalize Stream.Writer.fields list writer = result at hends
    cases hends with
    | all _ => exact ⟨_, rfl, Stream.Sink.taken_after .., rfl⟩
    | part hsome => cases hsome

namespace Header

/-- What a header is read as is the same in front of anything. -/
theorem yields_layout (header : Header) (rest : Bytes) :
    decode.Yields (header.encode ++ rest) (.ok header) 24 := by
  have hlen : 24 ≤ (header.encode ++ rest).length := by
    rw [Frame.length_front]
    exact Nat.le_add_right ..
  refine Decoder.yields_skip hlen fun start h => ⟨start.log, ?_⟩
  rw [decode_front h, Nat.zero_add]
  rfl

theorem yields_invalid_field (magic : UInt32) {field : Octets 12} (rest : Bytes)
    (hf : ¬ Command.IsField field.bytes) :
    decode.Yields (LittleEndian.encode 4 magic.toNat ++ (field.bytes ++ rest))
      (.error (.invalidCommand field)) 16 := by
  have hlen : 16 ≤ (LittleEndian.encode 4 magic.toNat ++ (field.bytes ++ rest)).length := by
    rw [(Frame.extract_command magic field rest).2]
    exact Nat.le_add_right ..
  refine Decoder.yields_skip hlen fun start h => ⟨start.log, ?_⟩
  rw [decode_invalid_command h hf, Nat.zero_add]
  rfl

/-- What becomes of a byte string that is long enough for a header. -/
inductive Reading (bytes : Bytes) : Prop where
  /-- It starts with the layout of a header, and that header is read. -/
  | header (header : Header) : header.encode = bytes.take 24 →
    decode.Yields bytes (.ok header) 24 → Reading bytes
  /-- The command field is none. -/
  | invalidCommand (field : Octets 12) : field.bytes = bytes.extract 4 16 →
    ¬ Command.IsField field.bytes → decode.Yields bytes (.error (.invalidCommand field)) 16 →
    Reading bytes

theorem reading {bytes : Bytes} (h : 24 ≤ bytes.length) : Reading bytes := by
  cases shape bytes with
  | noMagic hl => omega
  | noCommand magic hl =>
    rw [List.length_append, LittleEndian.length_encode] at h
    omega
  | noLength magic command hl =>
    rw [(Frame.extract_command magic command.field _).2] at h
    omega
  | noChecksum magic command length hl =>
    rw [(Frame.extract_command magic command.field _).2, List.length_append,
      LittleEndian.length_encode] at h
    omega
  | invalidCommand magic field rest hf =>
    exact .invalidCommand field (Frame.extract_command magic field rest).1.symm hf
      (yields_invalid_field magic rest hf)
  | whole header rest =>
    exact .header header (List.take_left' header.length_encode).symm (yields_layout header rest)

/-- **Headers and their layouts determine each other.** A header goes out as twenty-four bytes on
every sink that does not fail, and is read from them in front of anything. Of twenty-four bytes or
more that are read as a header the first twenty-four are its layout, and the others are left; if
they are not read, it is for the bytes of the command field, which are reported as they are. -/
theorem layout_exact :
    (∀ (header : Header) (suffix : Bytes),
      header.encode.length = 24 ∧
      (∀ writer : Stream.Writer, writer.sink.intake.failure? = none →
        ∃ after, Encoder.fields header.fields writer = .ok () after ∧
          after.sink.taken = writer.sink.taken ++ header.encode ∧
          after.bytesWritten = writer.bytesWritten + 24) ∧
      ∀ log, ∃ after, decode ⟨.ofBytes (header.encode ++ suffix), log⟩ = .ok header after ∧
        after.reader.bytesRead = 24 ∧ after.reader.source.bytes = suffix) ∧
    ∀ bytes : Bytes, 24 ≤ bytes.length → ∀ log,
      match decode ⟨.ofBytes bytes, log⟩ with
      | .ok header after =>
        header.encode = bytes.take 24 ∧ after.reader.bytesRead = 24 ∧
          after.reader.source.bytes = bytes.drop 24
      | .error error _ =>
        ∃ field : Octets 12, error = .invalidCommand field ∧ field.bytes = bytes.extract 4 16 ∧
          ¬ Command.IsField field.bytes := by
  refine ⟨fun header suffix => ⟨header.length_encode, fun writer h => ?_, fun log => ?_⟩,
    fun bytes hbytes log => ?_⟩
  · obtain ⟨after, hrun, htaken, hwritten⟩ := Encoder.fields_faultless header.fields h
    have hlength : header.fields.flatten.length = 24 := header.length_encode
    exact ⟨after, hrun, htaken, by rw [hwritten, hlength]⟩
  · obtain ⟨after, hrun, hread, hleft⟩ := yields_layout header suffix log
    exact ⟨after, hrun, hread, hleft.trans (List.drop_left' header.length_encode)⟩
  · cases reading hbytes with
    | header header hlayout hyields =>
      obtain ⟨after, hrun, hread, hleft⟩ := hyields log
      rw [hrun]
      exact ⟨hlayout, hread, hleft⟩
    | invalidCommand field hfield hnone hyields =>
      obtain ⟨after, hrun, -, -⟩ := hyields log
      rw [hrun]
      exact ⟨field, rfl, hfield, hnone⟩

end Header
end Gossip
