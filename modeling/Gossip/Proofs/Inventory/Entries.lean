import Gossip.Proofs.Inventory.Items
import Gossip.Proofs.Stream.Writing
import Mathlib.Data.List.Forall2

/-! Entries that are written one behind the other and read back.

An entry is any value that the fields of the program are made of, from a single byte to an item.
What a reader is asked for, a demand, knows nothing of the entry but its kind and, for raw bytes,
their number. `written_read_back` says that whatever is written comes back if it is asked for in the
same order, and that the reader has then counted as many bytes as the writer. -/
namespace Gossip

/-- A value that is written as a field or as a few. -/
inductive Entry where
  | u8 (value : UInt8)
  | u16 (value : UInt16)
  | u32 (value : UInt32)
  | u64 (value : UInt64)
  | compactSize (value : UInt64)
  /-- The bytes alone, without their number. -/
  | raw (bytes : Bytes)
  | item (item : Item)
  deriving DecidableEq, Repr

/-- What a reader is asked for. -/
inductive Demand where
  | u8
  | u16
  | u32
  | u64
  | compactSize
  | byteString (length : Nat)
  /-- As many bytes as the caller's buffer has, which holds these beforehand. -/
  | fillBuffer (buffer : Bytes)
  | item
  deriving DecidableEq, Repr

/-- Writes what one field or a few are made of. -/
def Encoder.field (write : Stream.Write Unit) : Encoder Unit := fun writer =>
  match write writer with
  | .ok () writer => .ok () writer
  | .error error writer => .error (.ofStream error) writer

namespace Entry

def write (version : ProtocolVersion) : Entry → Encoder Unit
  | .u8 value => .field (Stream.Writer.u8 value)
  | .u16 value => .field (Stream.Writer.u16 value)
  | .u32 value => .field (Stream.Writer.u32 value)
  | .u64 value => .field (Stream.Writer.u64 value)
  | .compactSize value => .field (Stream.Writer.compactSize value)
  | .raw bytes => .field (Stream.Writer.field bytes)
  | .item written => written.write version

/-- The bytes of an entry. -/
def layout : Entry → Bytes
  | .u8 value => LittleEndian.encode 1 value.toNat
  | .u16 value => LittleEndian.encode 2 value.toNat
  | .u32 value => LittleEndian.encode 4 value.toNat
  | .u64 value => LittleEndian.encode 8 value.toNat
  | .compactSize value => CompactSize.encode value
  | .raw bytes => bytes
  | .item written => written.encode

/-- The entry as it comes back: an item has the kind that its tag leads to. -/
def canonical : Entry → Entry
  | .item written => .item written.canonical
  | entry => entry

end Entry

namespace Demand

/-- Reads bytes into a buffer that is lent, and gives what the buffer then holds. -/
def readInto (buffer : Bytes) : Stream.Read Bytes := fun reader =>
  match Stream.Reader.fillBuffer buffer ([], reader) with
  | .ok () (filled, reader) => .ok filled reader
  | .error error (_, reader) => .error error reader

def read (version : ProtocolVersion) : Demand → Stream.Read Entry
  | .u8 => .u8 <$> Stream.Reader.u8
  | .u16 => .u16 <$> Stream.Reader.u16
  | .u32 => .u32 <$> Stream.Reader.u32
  | .u64 => .u64 <$> Stream.Reader.u64
  | .compactSize => .compactSize <$> Stream.Reader.compactSize
  | .byteString length => .raw <$> Stream.Reader.byteString length
  | .fillBuffer buffer => .raw <$> readInto buffer
  | .item => .item <$> Item.read version

/-- The demand asks for an entry of this kind, and of raw bytes for as many. -/
inductive Fits : Demand → Entry → Prop where
  | u8 (value : UInt8) : Fits .u8 (.u8 value)
  | u16 (value : UInt16) : Fits .u16 (.u16 value)
  | u32 (value : UInt32) : Fits .u32 (.u32 value)
  | u64 (value : UInt64) : Fits .u64 (.u64 value)
  | compactSize (value : UInt64) : Fits .compactSize (.compactSize value)
  | byteString (bytes : Bytes) : Fits (.byteString bytes.length) (.raw bytes)
  | fillBuffer {buffer bytes : Bytes} : bytes.length = buffer.length →
    Fits (.fillBuffer buffer) (.raw bytes)
  | item (item : Item) : Fits .item (.item item)

end Demand

/-! ### Writing -/

namespace Entry
variable {writer : Stream.Writer}

theorem field_ok {write : Stream.Write Unit} {after : Stream.Writer}
    (h : write writer = .ok () after) : Encoder.field write writer = .ok () after := by
  simp only [Encoder.field, h]

theorem write_unbounded (version : ProtocolVersion) (entry : Entry)
    (h : writer.sink.Unbounded) :
    entry.write version writer = .ok ()
      ⟨writer.sink.grown entry.layout, writer.bytesWritten + entry.layout.length⟩ := by
  cases entry with
  | compactSize value => exact field_ok (Stream.Writer.fields_unbounded h _)
  | item written => exact Encoder.fields_unbounded h written.fields
  | _ => exact field_ok (Stream.Writer.field_unbounded h _)

/-- By induction on the entries: each finds a sink that takes everything, as the first did. -/
theorem write_all_unbounded (version : ProtocolVersion) (entries : List Entry)
    (h : writer.sink.Unbounded) :
    entries.forM (write version) writer = .ok ()
      ⟨writer.sink.grown (entries.flatMap layout),
        writer.bytesWritten + (entries.flatMap layout).length⟩ := by
  induction entries generalizing writer with
  | nil => rfl
  | cons entry rest ih =>
    have hrest := @ih ⟨writer.sink.grown entry.layout, writer.bytesWritten + entry.layout.length⟩
      (h.grown entry.layout)
    rw [List.forM_eq_forM, List.forM_cons, ← List.forM_eq_forM,
      Stream.bind_ok (write_unbounded version entry h), hrest, List.flatMap_cons,
      Stream.Sink.grown_grown, List.length_append, Nat.add_assoc]

end Entry

/-! ### Reading back -/

namespace Demand
variable {demand : Demand} {entry : Entry} {reader : Stream.Reader} {rest : Bytes}

theorem readInto_front {buffer bytes : Bytes} (h : reader.arriving = bytes ++ rest)
    (hl : bytes.length = buffer.length) :
    readInto buffer reader = .ok bytes (reader.skip bytes.length) := by
  simp only [readInto, Stream.Reader.fillBuffer_front h hl, hl]

theorem read_front (version : ProtocolVersion) (fits : demand.Fits entry)
    (h : reader.arriving = entry.layout ++ rest) :
    demand.read version reader = .ok entry.canonical (reader.skip entry.layout.length) := by
  cases fits with
  | u8 value =>
    rw [Entry.layout, LittleEndian.encode_byte] at h ⊢
    exact Stream.map_ok (Stream.Reader.u8_front h)
  | u16 value => exact Stream.map_ok (Stream.Reader.u16_front h)
  | u32 value => exact Stream.map_ok (Stream.Reader.u32_front h)
  | u64 value => exact Stream.map_ok (Stream.Reader.u64_front h)
  | compactSize value =>
    have hread := Stream.Reader.compactSize_front h
    rw [← CompactSize.length_encode] at hread
    exact Stream.map_ok hread
  | byteString bytes => exact Stream.map_ok (Stream.Reader.byteString_front h rfl)
  | fillBuffer hl => exact Stream.map_ok (readInto_front h hl)
  | item item =>
    have hread := Item.read_layout version h
    rw [← item.length_encode] at hread
    exact Stream.map_ok hread

/-- By induction on the demands: each entry is read to its last byte, so that the next one starts
where the reader stands. -/
theorem read_all_front (version : ProtocolVersion) {demands : List Demand} {entries : List Entry}
    (fits : List.Forall₂ Fits demands entries)
    (h : reader.arriving = entries.flatMap Entry.layout ++ rest) :
    demands.mapM (read version) reader =
      .ok (entries.map Entry.canonical) (reader.skip (entries.flatMap Entry.layout).length) := by
  induction fits generalizing reader with
  | nil =>
    rw [List.flatMap_nil, List.length_nil, Stream.Reader.skip_zero]
    rfl
  | @cons demand entry demands entries hfits _ ih =>
    rw [List.flatMap_cons, List.append_assoc] at h
    rw [List.mapM_cons, Stream.bind_ok (read_front version hfits h),
      Stream.bind_ok (ih (Stream.Reader.arriving_skip h rfl)), Stream.Reader.skip_skip,
      List.flatMap_cons, List.length_append]
    rfl

end Demand

/-- **What is written comes back**, whatever follows it. All entries are written, each is read as it
was written, up to the kind of an item, and the reader has counted what the writer has. -/
theorem Entry.written_read_back (writing reading : ProtocolVersion) {entries : List Entry}
    {demands : List Demand} (fits : List.Forall₂ Demand.Fits demands entries) (suffix : Bytes) :
    ∃ writer reader,
      entries.forM (write writing) .inMemory = .ok () writer ∧
      writer.bytesWritten = writer.sink.taken.length ∧
      demands.mapM (Demand.read reading) (.ofBytes (writer.sink.taken ++ suffix)) =
        .ok (entries.map canonical) reader ∧
      reader.bytesRead = writer.bytesWritten ∧ reader.source.bytes = suffix := by
  let written := entries.flatMap layout
  have hwrite : entries.forM (write writing) .inMemory =
      .ok () ⟨Stream.Sink.unbounded.grown written, 0 + written.length⟩ :=
    write_all_unbounded writing entries Stream.Sink.unbounded_unbounded
  have harriving : (Stream.Reader.ofBytes (written ++ suffix)).arriving = written ++ suffix :=
    (Stream.Source.stretch_ofBytes _).1
  have hread := Demand.read_all_front reading fits harriving
  refine ⟨_, (Stream.Reader.ofBytes (written ++ suffix)).skip written.length, hwrite, ?_, ?_, rfl,
    Decoder.bytes_skip_front written suffix⟩
  · rw [Stream.Sink.taken_unbounded, Nat.zero_add]
  · rw [Stream.Sink.taken_unbounded]
    exact hread

/-- Raw bytes that are none, a number in three bytes, bytes that come back in a buffer, and an item
that is unknown by a tag with a name. -/
theorem Entry.written_read_back_item :
    let entries : List Entry :=
      [.raw [], .compactSize 515, .raw [7, 8], .item ⟨.unknown 1, .zero⟩]
    let demands : List Demand := [.byteString 0, .compactSize, .fillBuffer [9, 9], .item]
    List.Forall₂ Demand.Fits demands entries ∧
    ∃ writer reader,
      entries.forM (write .current) .inMemory = .ok () writer ∧
      writer.bytesWritten = writer.sink.taken.length ∧
      demands.mapM (Demand.read .current) (.ofBytes (writer.sink.taken ++ [0x2A])) =
        .ok [.raw [], .compactSize 515, .raw [7, 8], .item ⟨.tx, .zero⟩] reader ∧
      reader.bytesRead = writer.bytesWritten ∧ reader.source.bytes = [0x2A] := by
  intro entries demands
  have fits : List.Forall₂ Demand.Fits demands entries :=
    .cons (.byteString []) (.cons (.compactSize 515)
      (.cons (.fillBuffer rfl) (.cons (.item ⟨.unknown 1, .zero⟩) .nil)))
  exact ⟨fits, Entry.written_read_back .current .current fits [0x2A]⟩

end Gossip
