import Gossip.Proofs.Frame.Header
import Gossip.Proofs.Frame.Tracing

/-! Which byte strings are read as frames.

A frame that keeps what its header promises (`Valid`) is read from its own layout, whatever follows
it (`read_front`), and no other layout is read as a frame (`eq_of_read`). `read_decides` is the
whole decision, with the error of every byte string that is refused and the bytes that each outcome
consumes. -/
namespace Gossip.Frame
open Inbound (Ahead)

/-- A frame that keeps what its header promises, on a network and within limits. -/
structure Valid (network : Network) (limits : Limits) (frame : Frame) : Prop where
  magic : frame.header.magic = network.magic
  length : frame.payload.length = frame.header.length.toNat
  within : frame.header.length.toNat ≤ limits.maxPayloadBytes
  checksum : Checksum.of frame.payload = frame.header.checksum

/-- The layout of a frame. -/
def encode (frame : Frame) : Bytes := frame.header.encode ++ frame.payload

variable {network : Network} {limits : Limits}

theorem length_encode (frame : Frame) : frame.encode.length = 24 + frame.payload.length := by
  rw [encode, List.length_append, frame.header.length_encode]
  rfl

/-! ### One lemma for each outcome -/

variable {start : Inbound} {count : Nat} {header : Header} {rest : Bytes}

theorem read_header_error {inbound after : Inbound} {error : DecodeError}
    (h : Header.decode inbound = .error error after) :
    read network limits inbound = .error error after := by
  rw [read_eq, Stream.bind_error h]

theorem read_wrong_magic (h : Ahead start count (header.encode ++ rest))
    (hm : header.magic ≠ network.magic) :
    ∃ text, read network limits (start.skip count) =
      .error (.wrongMagic header.magic network.magic)
        ((start.skip (count + Header.size)).noting ⟨.warn, .frames, text⟩) := by
  rw [read_eq, Stream.bind_ok (Header.decode_front h)]
  dsimp only
  rw [if_pos hm]
  exact ⟨_, rfl⟩

theorem read_over_limit (h : Ahead start count (header.encode ++ rest))
    (hm : header.magic = network.magic) (hl : limits.maxPayloadBytes < header.length.toNat) :
    ∃ text, read network limits (start.skip count) =
      .error (.overLimit .payloadBytes limits.maxPayloadBytes header.length.toNat)
        ((start.skip (count + Header.size)).noting ⟨.warn, .frames, text⟩) := by
  rw [read_eq, Stream.bind_ok (Header.decode_front h)]
  dsimp only
  rw [if_neg (not_not_intro hm), if_pos hl]
  exact ⟨_, rfl⟩

theorem read_payload_cut (h : Ahead start count (header.encode ++ rest))
    (hm : header.magic = network.magic) (hl : header.length.toNat ≤ limits.maxPayloadBytes)
    (hs : rest.length < header.length.toNat) :
    read network limits (start.skip count) =
      .error (.cut header.length.toNat rest.length start.ending) start.drain := by
  have hrest := h.next header.length_encode
  rw [read_eq, Stream.bind_ok (Header.decode_front h)]
  dsimp only
  rw [if_neg (not_not_intro hm), if_neg (Nat.not_lt_of_le hl),
    Stream.bind_error (Decoder.byteString_short hrest hs)]

theorem read_checksum_mismatch {payload : Bytes}
    (h : Ahead start count (header.encode ++ (payload ++ rest)))
    (hm : header.magic = network.magic) (hl : header.length.toNat ≤ limits.maxPayloadBytes)
    (hp : payload.length = header.length.toNat) (hc : Checksum.of payload ≠ header.checksum) :
    ∃ text, read network limits (start.skip count) =
      .error (.checksumMismatch header.checksum (Checksum.of payload))
        ((start.skip (count + Header.size + header.length.toNat)).noting
          ⟨.warn, .frames, text⟩) := by
  have hrest := h.next header.length_encode
  rw [read_eq, Stream.bind_ok (Header.decode_front h)]
  dsimp only
  rw [if_neg (not_not_intro hm), if_neg (Nat.not_lt_of_le hl),
    Stream.bind_ok (Decoder.byteString_front hrest hp), verify,
    if_pos hc]
  exact ⟨_, rfl⟩

/-- The record of a frame that has been read. -/
def readRecord (frame : Frame) : Log.Record :=
  ⟨.debug, .frames, s!"read {frame.command} message ({frame.header.length.toNat} payload bytes)"⟩

/-- **A valid frame is read from its own layout**, and nothing of what follows it is touched. -/
theorem read_front {frame : Frame} (valid : Valid network limits frame)
    (h : Ahead start count (frame.encode ++ rest)) :
    read network limits (start.skip count) =
      .ok frame ((start.skip (count + frame.encode.length)).noting (readRecord frame)) := by
  have hlength : frame.encode.length = Header.size + frame.header.length.toNat := by
    rw [length_encode, valid.length]
    rfl
  rw [encode, List.append_assoc] at h
  have hrest := h.next frame.header.length_encode
  rw [read_eq, Stream.bind_ok (Header.decode_front h)]
  dsimp only
  rw [if_neg (not_not_intro valid.magic), if_neg (Nat.not_lt_of_le valid.within),
    Stream.bind_ok (Decoder.byteString_front hrest valid.length), verify,
    if_neg (not_not_intro valid.checksum), hlength, ← Nat.add_assoc]
  rfl

/-! ### The decision -/

/-- What may follow a whole header of the right network. -/
inductive Continuation (limits : Limits) (header : Header) : Bytes → Prop where
  | beyond {rest : Bytes} : limits.maxPayloadBytes < header.length.toNat →
    Continuation limits header rest
  | cut {rest : Bytes} : header.length.toNat ≤ limits.maxPayloadBytes →
    rest.length < header.length.toNat → Continuation limits header rest
  | mismatch (payload rest : Bytes) : header.length.toNat ≤ limits.maxPayloadBytes →
    payload.length = header.length.toNat → Checksum.of payload ≠ header.checksum →
    Continuation limits header (payload ++ rest)
  | payload (payload rest : Bytes) : header.length.toNat ≤ limits.maxPayloadBytes →
    payload.length = header.length.toNat → Checksum.of payload = header.checksum →
    Continuation limits header (payload ++ rest)

theorem continuation (limits : Limits) (header : Header) (rest : Bytes) :
    Continuation limits header rest := by
  by_cases hl : limits.maxPayloadBytes < header.length.toNat
  · exact .beyond hl
  by_cases hs : rest.length < header.length.toNat
  · exact .cut (Nat.le_of_not_lt hl) hs
  obtain ⟨payload, rest, rfl⟩ := Octets.exists_front (Nat.le_of_not_lt hs)
  by_cases hc : Checksum.of payload.bytes = header.checksum
  · exact .payload payload.bytes rest (Nat.le_of_not_lt hl) payload.length_eq hc
  · exact .mismatch payload.bytes rest (Nat.le_of_not_lt hl) payload.length_eq hc

/-- **Only valid frames are read**, each from its own layout. -/
theorem eq_of_read {inbound after : Inbound} {frame : Frame}
    (h : read network limits inbound = .ok frame after) :
    Valid network limits frame ∧ (∃ rest, Ahead inbound 0 (frame.encode ++ rest)) ∧
      after = (inbound.skip frame.encode.length).noting (readRecord frame) := by
  have hahead := Inbound.ahead_start inbound
  generalize inbound.arriving = bytes at hahead
  rw [← Inbound.skip_zero inbound] at h
  cases Header.shape bytes with
  | noMagic hl => rw [read_header_error (Header.decode_magic_cut hahead hl)] at h; cases h
  | noCommand _ hl => rw [read_header_error (Header.decode_command_cut hahead hl)] at h; cases h
  | invalidCommand _ _ _ hf =>
    rw [read_header_error (Header.decode_invalid_command hahead hf)] at h
    cases h
  | noLength _ _ hl => rw [read_header_error (Header.decode_length_cut hahead hl)] at h; cases h
  | noChecksum _ _ _ hl =>
    rw [read_header_error (Header.decode_checksum_cut hahead hl)] at h
    cases h
  | whole header rest =>
    by_cases hm : header.magic ≠ network.magic
    · obtain ⟨_, hrun⟩ := @read_wrong_magic network limits _ _ _ _ hahead hm
      rw [hrun] at h
      cases h
    have hmagic := Decidable.not_not.mp hm
    cases continuation limits header rest with
    | beyond hl =>
      obtain ⟨_, hrun⟩ := read_over_limit hahead hmagic hl
      rw [hrun] at h
      cases h
    | cut hl hs => rw [read_payload_cut hahead hmagic hl hs] at h; cases h
    | mismatch payload rest hl hp hc =>
      obtain ⟨_, hrun⟩ := read_checksum_mismatch hahead hmagic hl hp hc
      rw [hrun] at h
      cases h
    | payload payload rest hl hp hc =>
      have valid : Valid network limits ⟨header, payload⟩ := ⟨hmagic, hp, hl, hc⟩
      have hlayout : Ahead inbound 0 (Frame.encode ⟨header, payload⟩ ++ rest) := by
        rw [Frame.encode, List.append_assoc]
        exact hahead
      rw [read_front valid hlayout] at h
      cases h
      exact ⟨valid, ⟨rest, hlayout⟩, by rw [Nat.zero_add]⟩

/-! ### On byte strings -/

theorem length_front (header : Header) (rest : Bytes) :
    (header.encode ++ rest).length = 24 + rest.length := by
  rw [List.length_append, header.length_encode]
  rfl

theorem yields_wrong_magic (rest : Bytes) (hm : header.magic ≠ network.magic) :
    (read network limits).Yields (header.encode ++ rest)
      (.error (.wrongMagic header.magic network.magic)) 24 := by
  refine Decoder.yields_skip (by rw [length_front]; exact Nat.le_add_right ..) fun start h => ?_
  obtain ⟨text, hrun⟩ := @read_wrong_magic network limits _ _ _ _ h hm
  exact ⟨_, hrun⟩

theorem yields_over_limit (rest : Bytes) (hm : header.magic = network.magic)
    (hl : limits.maxPayloadBytes < header.length.toNat) :
    (read network limits).Yields (header.encode ++ rest)
      (.error (.overLimit .payloadBytes limits.maxPayloadBytes header.length.toNat)) 24 := by
  refine Decoder.yields_skip (by rw [length_front]; exact Nat.le_add_right ..) fun start h => ?_
  obtain ⟨text, hrun⟩ := read_over_limit h hm hl
  exact ⟨_, hrun⟩

theorem yields_payload_cut (hm : header.magic = network.magic)
    (hl : header.length.toNat ≤ limits.maxPayloadBytes) (hs : rest.length < header.length.toNat) :
    (read network limits).Yields (header.encode ++ rest)
      (.error (.truncated header.length.toNat rest.length)) (header.encode ++ rest).length :=
  Decoder.yields_drain fun _ h => read_payload_cut h hm hl hs

theorem yields_checksum_mismatch {payload : Bytes} (rest : Bytes)
    (hm : header.magic = network.magic) (hl : header.length.toNat ≤ limits.maxPayloadBytes)
    (hp : payload.length = header.length.toNat) (hc : Checksum.of payload ≠ header.checksum) :
    (read network limits).Yields (header.encode ++ (payload ++ rest))
      (.error (.checksumMismatch header.checksum (Checksum.of payload)))
      (24 + header.length.toNat) := by
  have hlen : 24 + header.length.toNat ≤ (header.encode ++ (payload ++ rest)).length := by
    rw [length_front, List.length_append, hp]
    exact Nat.add_le_add_left (Nat.le_add_right ..) _
  refine Decoder.yields_skip hlen fun start h => ?_
  obtain ⟨text, hrun⟩ := read_checksum_mismatch h hm hl hp hc
  exact ⟨_, hrun⟩

/-- A valid frame is accepted in front of anything. -/
theorem yields_front {frame : Frame} (valid : Valid network limits frame) (rest : Bytes) :
    (read network limits).Yields (frame.encode ++ rest) (.ok frame) frame.encode.length := by
  apply Decoder.yields_skip
  · rw [List.length_append]
    exact Nat.le_add_right ..
  · intro start hahead
    refine ⟨start.log ++ [readRecord frame], ?_⟩
    rw [read_front valid hahead, Nat.zero_add]
    rfl

/-- What is accepted is a valid frame, in front of what is left. -/
theorem valid_of_yields {bytes : Bytes} {frame : Frame} {consumed : Nat}
    (h : (read network limits).Yields bytes (.ok frame) consumed) :
    Valid network limits frame ∧ bytes.take consumed = frame.encode ∧
      consumed = frame.encode.length := by
  obtain ⟨after, hrun, hread, -⟩ := h []
  obtain ⟨valid, ⟨rest, hahead⟩, rfl⟩ := eq_of_read hrun
  have hbytes := Decoder.eq_of_ahead_ofBytes hahead
  have hconsumed : consumed = frame.encode.length := by
    rw [← hread]
    exact Nat.zero_add _
  exact ⟨valid, by rw [hbytes, hconsumed, List.take_left], hconsumed⟩

theorem extract_header (header : Header) (rest : Bytes) :
    LittleEndian.decode ((header.encode ++ rest).extract 0 4) = header.magic.toNat ∧
      (header.encode ++ rest).extract 4 16 = header.command.field.bytes ∧
      LittleEndian.decode ((header.encode ++ rest).extract 16 20) = header.length.toNat ∧
      (header.encode ++ rest).extract 20 24 = header.checksum.bytes := by
  have hmagic := LittleEndian.length_encode 4 header.magic.toNat
  have hcommand := header.command.field.length_eq
  have hlength := LittleEndian.length_encode 4 header.length.toNat
  rw [Header.encode_append]
  refine ⟨?_, ?_, ?_, ?_⟩
  · rw [Bytes.extract_front hmagic, LittleEndian.decode_encode_of_lt header.magic.toNat_lt]
  · rw [Bytes.extract_behind hmagic 0 12, Bytes.extract_front hcommand]
  · rw [Bytes.extract_behind hmagic 12 16, Bytes.extract_behind hcommand 0 4,
      Bytes.extract_front hlength, LittleEndian.decode_encode_of_lt header.length.toNat_lt]
  · rw [Bytes.extract_behind hmagic 16 20, Bytes.extract_behind hcommand 4 8,
      Bytes.extract_behind hlength 0 4, Bytes.extract_front header.checksum.length_eq]

theorem extract_payload (header : Header) {payload : Bytes} (rest : Bytes)
    (h : payload.length = header.length.toNat) :
    (header.encode ++ (payload ++ rest)).extract 24 (24 + header.length.toNat) = payload :=
  (Bytes.extract_behind header.length_encode 0 _).trans (Bytes.extract_front h)

theorem extract_command (magic : UInt32) (field : Octets 12) (rest : Bytes) :
    (LittleEndian.encode 4 magic.toNat ++ (field.bytes ++ rest)).extract 4 16 = field.bytes ∧
      (LittleEndian.encode 4 magic.toNat ++ (field.bytes ++ rest)).length = 16 + rest.length := by
  constructor
  · rw [Bytes.extract_behind (LittleEndian.length_encode ..) 0 12,
      Bytes.extract_front field.length_eq]
  · simp only [List.length_append, LittleEndian.length_encode, field.length_eq]
    omega

/-- **Reading a frame decides in this order**, and consumes so much. The fields are cut out of the
byte string at their fixed places. Nothing behind an accepted frame has a say in it. -/
theorem read_decides (network : Network) (limits : Limits) (bytes : Bytes) :
    let yields := (read network limits).Yields bytes
    let magic := LittleEndian.decode (bytes.extract 0 4)
    let length := LittleEndian.decode (bytes.extract 16 20)
    let payload := bytes.extract 24 (24 + length)
    (if bytes.length < 4 then yields (.error (.truncated 4 bytes.length)) bytes.length
    else if bytes.length < 16 then
      yields (.error (.truncated 12 (bytes.length - 4))) bytes.length
    else if ¬ Command.IsField (bytes.extract 4 16) then
      ∃ field : Octets 12, field.bytes = bytes.extract 4 16 ∧
        yields (.error (.invalidCommand field)) 16
    else if bytes.length < 20 then
      yields (.error (.truncated 4 (bytes.length - 16))) bytes.length
    else if bytes.length < 24 then
      yields (.error (.truncated 4 (bytes.length - 20))) bytes.length
    else if magic ≠ network.magic.toNat then
      ∃ found : UInt32, found.toNat = magic ∧
        yields (.error (.wrongMagic found network.magic)) 24
    else if limits.maxPayloadBytes < length then
      yields (.error (.overLimit .payloadBytes limits.maxPayloadBytes length)) 24
    else if bytes.length - 24 < length then
      yields (.error (.truncated length (bytes.length - 24))) bytes.length
    else if (Checksum.of payload).bytes ≠ bytes.extract 20 24 then
      ∃ announced : Checksum, announced.bytes = bytes.extract 20 24 ∧
        yields (.error (.checksumMismatch announced (Checksum.of payload))) (24 + length)
    else
      ∃ frame : Frame, frame.payload = payload ∧ frame.header.magic.toNat = magic ∧
        frame.header.command.field.bytes = bytes.extract 4 16 ∧
        frame.header.length.toNat = length ∧ frame.header.checksum.bytes = bytes.extract 20 24 ∧
        yields (.ok frame) (24 + length)) ∧
    ∀ frame consumed tail, yields (.ok frame) consumed →
      (read network limits).Yields (bytes.take consumed ++ tail) (.ok frame) consumed := by
  intro yields magic length payload
  constructor
  · cases Header.shape bytes with
    | noMagic hl =>
      rw [if_pos hl]
      exact Decoder.yields_drain fun _ h => read_header_error (Header.decode_magic_cut h hl)
    | @noCommand found rest hl =>
      have hlen : (LittleEndian.encode 4 found.toNat ++ rest).length = 4 + rest.length := by simp
      rw [if_neg (by omega), if_pos (by omega), hlen, Nat.add_sub_cancel_left, ← hlen]
      exact Decoder.yields_drain fun _ h => read_header_error (Header.decode_command_cut h hl)
    | invalidCommand found field rest hf =>
      obtain ⟨hfield, hlen⟩ := extract_command found field rest
      rw [if_neg (by omega), if_neg (by omega), if_pos (by rw [hfield]; exact hf)]
      refine ⟨field, hfield.symm, Decoder.yields_skip (by omega) fun start h => ⟨start.log, ?_⟩⟩
      exact read_header_error (Header.decode_invalid_command h hf)
    | @noLength found command rest hl =>
      obtain ⟨hfield, hlen⟩ := extract_command found command.field rest
      rw [if_neg (by omega), if_neg (by omega),
        if_neg (not_not_intro (by rw [hfield]; exact command.isField_field)), if_pos (by omega),
        hlen, Nat.add_sub_cancel_left, ← hlen]
      exact Decoder.yields_drain fun _ h => read_header_error (Header.decode_length_cut h hl)
    | @noChecksum found command announced rest hl =>
      obtain ⟨hfield, hlen⟩ := extract_command found command.field
        (LittleEndian.encode 4 announced.toNat ++ rest)
      have hinner : (LittleEndian.encode 4 announced.toNat ++ rest).length = 4 + rest.length := by
        simp
      rw [if_neg (by omega), if_neg (by omega),
        if_neg (not_not_intro (by rw [hfield]; exact command.isField_field)), if_neg (by omega),
        if_pos (by omega), show _ - 20 = rest.length by omega]
      exact Decoder.yields_drain fun _ h => read_header_error (Header.decode_checksum_cut h hl)
    | whole header rest =>
      have hlen := length_front header rest
      obtain ⟨hmagic, hfield, hlength, hchecksum⟩ := extract_header header rest
      rw [if_neg (by omega), if_neg (by omega),
        if_neg (not_not_intro (by rw [hfield]; exact header.command.isField_field)),
        if_neg (by omega), if_neg (by omega), hfield, hchecksum,
        show (header.encode ++ rest).length - 24 = rest.length by omega]
      simp only [magic, payload, length, hmagic, hlength]
      by_cases hm : header.magic ≠ network.magic
      · rw [if_pos (mt UInt32.toNat_inj.mp hm)]
        exact ⟨header.magic, rfl, yields_wrong_magic rest hm⟩
      have hm := Decidable.not_not.mp hm
      rw [if_neg (not_not_intro (by rw [hm]))]
      cases continuation limits header rest with
      | beyond hl =>
        rw [if_pos hl]
        exact yields_over_limit rest hm hl
      | cut hl hs =>
        rw [if_neg (by omega), if_pos hs]
        exact yields_payload_cut hm hl hs
      | mismatch found rest hl hp hc =>
        rw [if_neg (by omega), if_neg (by rw [List.length_append]; omega),
          extract_payload header rest hp, if_pos (mt Octets.ext hc)]
        exact ⟨header.checksum, rfl, yields_checksum_mismatch rest hm hl hp hc⟩
      | payload found rest hl hp hc =>
        have valid : Valid network limits ⟨header, found⟩ := ⟨hm, hp, hl, hc⟩
        have hyields := yields_front valid rest
        rw [length_encode, valid.length, encode, List.append_assoc] at hyields
        rw [if_neg (by omega), if_neg (by rw [List.length_append]; omega),
          extract_payload header rest hp, if_neg (not_not_intro (by rw [hc]))]
        exact ⟨⟨header, found⟩, rfl, rfl, rfl, rfl, rfl, hyields⟩
  · intro frame consumed tail h
    obtain ⟨valid, htake, rfl⟩ := valid_of_yields h
    rw [htake]
    exact yields_front valid tail

end Gossip.Frame
