import Gossip.Proofs.Respects
import Gossip.Proofs.Stream.Reading
import Gossip.Proofs.Stream.Writing

/-! Reading accepts exactly the canonical compact sizes.

A number has a form in as many bytes as hold it (`Form`), and the writer takes the shortest one.
Every byte string starts with the shortest form of a number, starts with a longer one, or breaks off
inside a form, and reading tells the three apart (`Reading`). Since no form goes on where another one
ends, what is written for one number starts what is written for no other (`reads_canonical`). -/
namespace Gossip.CompactSize
open Gossip.Stream (Error Reader Writer)

/-! ### Forms -/

/-- The forms of a number: a byte of its own, or a first byte and the number in two, four or eight
bytes, whether it would fit fewer or not. -/
inductive Form (value : UInt64) : Bytes → Prop where
  | one : value.toNat < 0xFD → Form value [value.toUInt8]
  | three : value.toNat < 0x10000 → Form value (0xFD :: LittleEndian.encode 2 value.toNat)
  | five : value.toNat < 0x100000000 → Form value (0xFE :: LittleEndian.encode 4 value.toNat)
  | nine : Form value (0xFF :: LittleEndian.encode 8 value.toNat)

variable {value other : UInt64} {form bytes : Bytes} {first : UInt8} {tail : Bytes}

theorem valueOf_encode (first : UInt8) {width : Nat} (h : width ≠ 0)
    (fits : value.toNat < LittleEndian.capacity width) :
    valueOf first (LittleEndian.encode width value.toNat) = value := by
  have hne : LittleEndian.encode width value.toNat ≠ [] := by
    intro he
    rw [← LittleEndian.length_encode width value.toNat, he] at h
    exact h rfl
  rw [valueOf, if_neg hne, LittleEndian.decode_encode_of_lt fits, UInt64.ofNat_toNat]

/-- A form is a first byte and what it announces. -/
theorem Form.exists_valueOf (h : Form value form) :
    ∃ first tail, form = first :: tail ∧ tail.length = tailWidth first ∧
      valueOf first tail = value := by
  cases h with
  | one hsmall =>
    obtain ⟨first, tail, hencode, hform⟩ := CompactSize.exists_valueOf value
    rw [encode, (fields_small value hsmall).1] at hencode
    exact ⟨first, tail, hencode, hform.1, hform.2.1⟩
  | three hfits =>
    exact ⟨_, _, rfl, LittleEndian.length_encode .., valueOf_encode _ (by decide) hfits⟩
  | five hfits =>
    exact ⟨_, _, rfl, LittleEndian.length_encode .., valueOf_encode _ (by decide) hfits⟩
  | nine =>
    exact ⟨_, _, rfl, LittleEndian.length_encode .., valueOf_encode _ (by decide) value.toNat_lt⟩

theorem form_valueOf (h : tail.length = tailWidth first) :
    Form (valueOf first tail) (first :: tail) := by
  by_cases hw : tailWidth first = 0
  · obtain rfl : tail = [] := by rw [← List.length_eq_zero_iff, h, hw]
    have hsmall : first.toNat < 0xFD := by
      rcases tailWidth_cases first with ⟨-, h⟩ | ⟨-, h⟩ | ⟨-, h⟩ | ⟨hlt, -⟩
      · omega
      · omega
      · omega
      · exact hlt
    rw [valueOf_nil]
    have hform : Form first.toUInt64 [first.toUInt64.toUInt8] := .one (by simpa using hsmall)
    simpa using hform
  · obtain ⟨hv, hlt⟩ := toNat_valueOf first tail h hw
    have htail : LittleEndian.encode (tailWidth first) (valueOf first tail).toNat = tail := by
      rw [hv, ← h, LittleEndian.encode_decode]
    rw [← hv] at hlt
    generalize valueOf first tail = value at hlt htail
    subst htail
    rcases tailWidth_cases first with ⟨rfl, hw'⟩ | ⟨rfl, hw'⟩ | ⟨rfl, hw'⟩ | ⟨-, hw'⟩
    · exact .three hlt
    · exact .five hlt
    · exact .nine
    · exact absurd hw' hw

theorem form_encode (value : UInt64) : Form value (encode value) := by
  obtain ⟨first, tail, hencode, hl, rfl, -⟩ := exists_valueOf value
  rw [hencode]
  exact form_valueOf hl

/-- The form that is written is the shortest, and the only one of its length. -/
theorem Form.eq_encode (h : Form value form) (hl : ¬ size value < form.length) :
    form = encode value := by
  obtain ⟨first, tail, rfl, hwidth, rfl⟩ := h.exists_valueOf
  rw [List.length_cons, hwidth, Nat.add_comm] at hl
  exact (encode_valueOf first tail hwidth hl).symm

theorem Form.size_le (h : Form value form) : size value ≤ form.length := by
  by_cases hl : size value < form.length
  · exact Nat.le_of_lt hl
  · exact Nat.le_of_eq (by rw [h.eq_encode hl, length_encode])

/-- No form goes on where another one ends: the first byte says how long it is. -/
theorem Form.eq_of_starts {longer : Bytes} (h : Form value form) (h' : Form other longer)
    (hp : form <+: longer) : form = longer ∧ value = other := by
  obtain ⟨first, tail, rfl, hl, rfl⟩ := h.exists_valueOf
  obtain ⟨_, tail', rfl, hl', rfl⟩ := h'.exists_valueOf
  obtain ⟨rfl, htail⟩ := List.cons_prefix_cons.mp hp
  obtain rfl := htail.eq_of_length (hl.trans hl'.symm)
  exact ⟨rfl, rfl⟩

/-! ### Reading -/

/-- What reading a byte string as a compact size comes to, and how many bytes it has consumed. -/
def read (bytes : Bytes) : Except Error UInt64 × Nat :=
  seen Reader.bytesRead (Reader.compactSize (.ofBytes bytes))

theorem arriving_ofBytes (bytes : Bytes) : (Reader.ofBytes bytes).arriving = bytes :=
  (Stream.Source.stretch_ofBytes bytes).1

theorem ending_ofBytes (bytes : Bytes) : (Reader.ofBytes bytes).ending = .ended :=
  (Stream.Source.stretch_ofBytes bytes).2.1

theorem read_shortest (value : UInt64) (rest : Bytes) :
    read (encode value ++ rest) = (.ok value, size value) := by
  rw [read, Reader.compactSize_front (arriving_ofBytes _), seen, Reader.bytesRead_skip]
  exact congrArg _ (Nat.zero_add _)

theorem read_longer (h : Form value form) (hs : size value < form.length) (rest : Bytes) :
    read (form ++ rest) = (.error (.nonCanonical value form.length), form.length) := by
  obtain ⟨first, tail, rfl, hl, rfl⟩ := h.exists_valueOf
  have hlength : (first :: tail).length = 1 + tailWidth first := by
    rw [List.length_cons, hl, Nat.add_comm]
  rw [hlength] at hs ⊢
  rw [read, List.cons_append, Reader.compactSize_form (arriving_ofBytes _) hl, if_pos hs, seen,
    Reader.bytesRead_skip]
  exact congrArg _ (Nat.zero_add _)

theorem read_broken (h : Form value form) (hp : bytes <+: form) (hne : bytes ≠ form) :
    ∃ requested available, read bytes =
      (.error (.endOfStream requested available), bytes.length) := by
  obtain ⟨first, tail, rfl, hl, rfl⟩ := h.exists_valueOf
  have hcount : (Reader.ofBytes bytes).drain.bytesRead = bytes.length := by
    show 0 + (Reader.ofBytes bytes).arriving.length = bytes.length
    rw [arriving_ofBytes, Nat.zero_add]
  cases bytes with
  | nil =>
    refine ⟨1, 0, ?_⟩
    rw [read, Reader.compactSize_none (arriving_ofBytes []), seen, hcount, ending_ofBytes]
    rfl
  | cons byte rest =>
    obtain ⟨rfl, hrest⟩ := List.cons_prefix_cons.mp hp
    have hshort : rest.length < tailWidth byte := by
      rw [← hl]
      apply Nat.lt_of_le_of_ne hrest.length_le
      intro he
      exact hne (by rw [hrest.eq_of_length he])
    refine ⟨tailWidth byte, rest.length, ?_⟩
    rw [read, Reader.compactSize_cut (arriving_ofBytes _) hshort, seen, hcount, ending_ofBytes]
    rfl

/-- What reading a byte string comes to, by how it starts: with the form that is written, with a
longer one, or by breaking off inside a form. -/
inductive Reading (bytes : Bytes) : Except Error UInt64 × Nat → Prop where
  | shortest (value : UInt64) (rest : Bytes) : bytes = encode value ++ rest →
    Reading bytes (.ok value, size value)
  | longer {value : UInt64} {form : Bytes} (rest : Bytes) : bytes = form ++ rest →
    Form value form → size value < form.length →
    Reading bytes (.error (.nonCanonical value form.length), form.length)
  | broken {value : UInt64} {form : Bytes} {requested available : Nat} : Form value form →
    bytes <+: form → bytes ≠ form →
    Reading bytes (.error (.endOfStream requested available), bytes.length)

theorem Form.reading_broken (h : Form value form) (hp : bytes <+: form) (hne : bytes ≠ form) :
    Reading bytes (read bytes) := by
  obtain ⟨requested, available, hread⟩ := read_broken h hp hne
  rw [hread]
  exact .broken h hp hne

theorem reading (bytes : Bytes) : Reading bytes (read bytes) := by
  cases shape bytes with
  | none => exact (form_encode 0).reading_broken List.nil_prefix (by decide)
  | @cut first rest hl =>
    have hfull : (rest ++ List.replicate (tailWidth first - rest.length) 0).length =
        tailWidth first := by
      rw [List.length_append, List.length_replicate]
      omega
    refine (form_valueOf hfull).reading_broken
      (List.cons_prefix_cons.mpr ⟨rfl, List.prefix_append ..⟩) ?_
    intro he
    rw [← (List.cons.inj he).2] at hfull
    omega
  | wide first tail rest hl hs =>
    rw [Nat.add_comm, ← List.length_cons (a := first)] at hs
    rw [← List.cons_append, read_longer (form_valueOf hl) hs]
    exact .longer rest rfl (form_valueOf hl) hs
  | whole value rest =>
    rw [read_shortest]
    exact .shortest value rest rfl

theorem reading_of {result : Except Error UInt64 × Nat} (h : read bytes = result) :
    Reading bytes result := by
  rw [← h]
  exact reading bytes

theorem of_read_ok {count : Nat} (h : read bytes = (.ok value, count)) :
    ∃ rest, bytes = encode value ++ rest ∧ count = size value := by
  cases reading_of h with
  | shortest _ rest hbytes => exact ⟨rest, hbytes, rfl⟩

theorem of_read_nonCanonical {width count : Nat}
    (h : read bytes = (.error (.nonCanonical value width), count)) :
    count = width ∧ ∃ form rest, bytes = form ++ rest ∧ Form value form ∧ form.length = width ∧
      size value < width := by
  cases reading_of h with
  | longer rest hbytes hform hs => exact ⟨rfl, _, rest, hbytes, hform, rfl, hs⟩

theorem of_read_endOfStream {requested available count : Nat}
    (h : read bytes = (.error (.endOfStream requested available), count)) :
    ∃ value form, Form value form ∧ bytes <+: form ∧ bytes ≠ form := by
  cases reading_of h with
  | broken hform hp hne => exact ⟨_, _, hform, hp, hne⟩

theorem read_faultless (bytes : Bytes) (fault : Stream.Fault) (count : Nat) :
    read bytes ≠ (.error (.transport fault), count) := by
  intro h
  cases reading_of h

/-! ### Writing -/

/-- A writer into memory writes these bytes for the number. -/
def Writes (value : UInt64) (bytes : Bytes) : Prop :=
  ∃ writer, Writer.compactSize value .inMemory = .ok () writer ∧ writer.sink.taken = bytes

theorem writes_iff : Writes value bytes ↔ bytes = encode value := by
  have hunbounded : Writer.inMemory.sink.Unbounded := Stream.Sink.unbounded_unbounded
  have hwrite := Writer.fields_unbounded hunbounded (fields value)
  have htaken : (Stream.Sink.unbounded.grown (encode value)).taken = encode value :=
    Stream.Sink.taken_unbounded _
  constructor
  · rintro ⟨writer, hwriter, rfl⟩
    rw [Writer.compactSize, hwrite] at hwriter
    cases hwriter
    exact htaken
  · rintro rfl
    exact ⟨_, hwrite, htaken⟩

/-! ### Both -/

/-- What is owed when a byte string is read as a compact size. -/
structure ReadsCanonical (bytes : Bytes) (result : Except Error UInt64 × Nat) : Prop where
  /-- A number is read exactly if the bytes consumed are those that are written for it. -/
  accepts (value : UInt64) (count : Nat) : result = (.ok value, count) ↔
    count ≤ bytes.length ∧ Writes value (bytes.take count)
  size {value : UInt64} {count : Nat} : result = (.ok value, count) → count = size value
  /-- A form is refused exactly if the number has a shorter one; it is read to its end. -/
  refuses (value : UInt64) (width count : Nat) :
    result = (.error (.nonCanonical value width), count) ↔
      count = width ∧ ∃ form rest shorter, bytes = form ++ rest ∧ Form value form ∧
        form.length = width ∧ Form value shorter ∧ shorter.length < width
  wider {value : UInt64} {width count : Nat} :
    result = (.error (.nonCanonical value width), count) → CompactSize.size value < width
  /-- The stream ends too early exactly if it ends inside a form. -/
  breaks : (∃ requested available count,
      result = (.error (.endOfStream requested available), count)) ↔
    ∃ value form, Form value form ∧ bytes <+: form ∧ bytes ≠ form
  /-- Nothing else goes wrong. -/
  faultless (fault : Stream.Fault) (count : Nat) : result ≠ (.error (.transport fault), count)

/-- **Reading accepts exactly what writing produces**, refuses every longer form, and finds the stream
too short exactly inside a form. So no number's form is the beginning of another's. -/
theorem reads_canonical :
    (∀ bytes, ReadsCanonical bytes (read bytes)) ∧
    (∀ value, ∃ form, Writes value form ∧ form.length = size value) ∧
    ∀ value other form longer, Writes value form → Writes other longer → form <+: longer →
      value = other := by
  refine ⟨?_, fun value => ⟨_, writes_iff.mpr rfl, length_encode value⟩, ?_⟩
  · intro bytes
    refine ⟨?_, ?_, ?_, ?_, ?_, read_faultless bytes⟩
    · intro value count
      rw [writes_iff]
      constructor
      · intro h
        obtain ⟨rest, rfl, rfl⟩ := of_read_ok h
        rw [List.take_left' (length_encode value), List.length_append, length_encode]
        exact ⟨Nat.le_add_right .., rfl⟩
      · rintro ⟨hl, htake⟩
        have hcount : count = size value := by
          rw [← length_encode, ← htake, List.length_take_of_le hl]
        rw [← List.take_append_drop count bytes, htake, read_shortest, hcount]
    · intro value count h
      obtain ⟨-, -, hcount⟩ := of_read_ok h
      exact hcount
    · intro value width count
      constructor
      · intro h
        obtain ⟨hcount, form, rest, hbytes, hform, hwidth, hs⟩ := of_read_nonCanonical h
        rw [← length_encode] at hs
        exact ⟨hcount, form, rest, encode value, hbytes, hform, hwidth, form_encode value, hs⟩
      · rintro ⟨rfl, form, rest, shorter, rfl, hform, rfl, hshorter, hs⟩
        exact read_longer hform (Nat.lt_of_le_of_lt hshorter.size_le hs) rest
    · intro value width count h
      obtain ⟨-, -, -, -, -, -, hs⟩ := of_read_nonCanonical h
      exact hs
    · constructor
      · rintro ⟨requested, available, count, h⟩
        exact of_read_endOfStream h
      · rintro ⟨value, form, hform, hp, hne⟩
        obtain ⟨requested, available, hread⟩ := read_broken hform hp hne
        exact ⟨requested, available, _, hread⟩
  · intro value other form longer hform hlonger hp
    rw [writes_iff] at hform hlonger
    subst hform hlonger
    exact ((form_encode value).eq_of_starts (form_encode other) hp).2

/-- The greatest number of one byte, in its own form and in a longer one, and a form that breaks
off. -/
example : read [0xFC, 7] = (.ok 0xFC, 1) ∧
    read [0xFD, 0xFC, 0, 7] = (.error (.nonCanonical 0xFC 3), 3) ∧
    read [0xFE, 1] = (.error (.endOfStream 4 1), 2) :=
  ⟨rfl, rfl, rfl⟩

end Gossip.CompactSize
