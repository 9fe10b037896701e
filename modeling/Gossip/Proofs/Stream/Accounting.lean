import Gossip.Proofs.Stream.Script

/-! What a reader accounts for.

A script may ask for anything, over a source that fails as often as it likes. After every step the
reader has counted each byte that is no longer in the source, once and in order (`Reader.Took`). A
step that asks for a width has taken exactly that many bytes if it succeeds; if it fails it has
taken fewer, and tells how many where the stream has ended (`Request.Accounts`). What a caller has
lent as a buffer holds the bytes that were taken, in front of what it held before.

`perform_enough` and `perform_short` are the two ways in which a step of known width goes;
`script_accounts` puts the steps of a script one behind the other. -/
namespace Gossip.Stream

/-! ### Bytes taken off a source -/

namespace Reader

/-- From one state of a reader to a later one these bytes have been taken off the source, and
counted. -/
structure Took (before after : Reader) (taken : Bytes) : Prop where
  source : before.source.bytes = taken ++ after.source.bytes
  bytesRead : after.bytesRead = before.bytesRead + taken.length

variable {before between after : Reader} {first second : Bytes}

theorem Took.nothing (reader : Reader) : Took reader reader [] := ⟨rfl, rfl⟩

theorem Took.trans (h : Took before between first) (h' : Took between after second) :
    Took before after (first ++ second) := by
  constructor
  · rw [h.source, h'.source, List.append_assoc]
  · rw [h'.bytesRead, h.bytesRead, List.length_append, Nat.add_assoc]

theorem took_skip {reader : Reader} {count : Nat} (h : count ≤ reader.arriving.length) :
    reader.Took (reader.skip count) (reader.arriving.take count) := by
  constructor
  · have hl : count ≤ reader.source.arriving.length := h
    show _ = reader.source.arriving.take count ++ (reader.source.skip count).bytes
    rw [Source.bytes_skip count _ hl, Source.bytes_eq, List.drop_append_of_le_length hl,
      ← List.append_assoc, List.take_append_drop]
  · rw [List.length_take_of_le h]
    rfl

theorem took_drain (reader : Reader) : reader.Took reader.drain reader.arriving :=
  ⟨reader.source.bytes_eq, rfl⟩

/-- No byte is lost: those counted and those still to come are always as many. -/
theorem Took.total (h : Took before after first) :
    after.bytesRead + after.source.remaining = before.bytesRead + before.source.remaining := by
  rw [h.bytesRead, ← Source.length_bytes before.source, h.source, List.length_append,
    Source.length_bytes, Nat.add_assoc]

/-! ### Reads of a known width -/

/-- The read needs so many bytes. It gets them where they arrive, and where they do not it takes all
that arrives and meets the stop. -/
structure Needs {α : Type} (read : Read α) (width : Nat) : Prop where
  enough (reader : Reader) : width ≤ reader.arriving.length →
    ∃ value, read reader = .ok value (reader.skip width)
  short (reader : Reader) : reader.arriving.length < width →
    read reader = .error (failure width reader.arriving.length reader.ending) reader.drain

theorem Needs.map {α β : Type} {read : Read α} {width : Nat} (h : Needs read width) (f : α → β) :
    Needs (f <$> read) width where
  enough reader hl := by
    obtain ⟨value, hread⟩ := h.enough reader hl
    exact ⟨f value, map_ok hread⟩
  short reader hl := map_error (h.short reader hl)

theorem needs_octets (width : Nat) : Needs (octets width) width where
  enough reader hl := by
    obtain ⟨field, rest, hrest⟩ := Octets.exists_front hl
    exact ⟨field, octets_front hrest⟩
  short _ := octets_short rfl

theorem needs_number (width : Nat) : Needs (number width) width where
  enough reader hl := by
    obtain ⟨field, rest, hrest⟩ := Octets.exists_front hl
    exact ⟨_, number_front hrest field.length_eq⟩
  short _ := number_short rfl

theorem needs_byteString (length : Nat) : Needs (byteString length) length where
  enough reader hl := by
    obtain ⟨field, rest, hrest⟩ := Octets.exists_front hl
    exact ⟨field.bytes, byteString_front hrest field.length_eq⟩
  short _ := byteString_short rfl

end Reader

/-! ### One step of a script -/

namespace Request

/-- How many bytes a request asks for. That of a compact size depends on its first byte. -/
def width? : Request → Option Nat
  | .u8 => some 1
  | .u16 => some 2
  | .u32 => some 4
  | .u64 => some 8
  | .compactSize => none
  | .octets width => some width
  | .byteString length => some length
  | .fillBuffer buffer => some buffer.length

/-- The caller's buffer when these bytes have been taken: one that was lent has them in front of
what it held, and any other is as it was. -/
def bufferAfter (request : Request) (buffer taken : Bytes) : Bytes :=
  match request with
  | .fillBuffer lent => taken ++ lent.drop taken.length
  | _ => buffer

/-- What a step owes that has taken these bytes. -/
structure Accounts (request : Request) (before : Bytes × Reader) (taken : Bytes)
    (result : EStateM.Result Error (Bytes × Reader) Answer) : Prop where
  took : before.2.Took (endState result).2 taken
  buffer : (endState result).1 = request.bufferAfter before.1 taken
  /-- A step that succeeds has taken all it asked for. -/
  met {width : Nat} {answer : Answer} {after : Bytes × Reader} : request.width? = some width →
    result = .ok answer after → taken.length = width
  /-- A step that fails has taken less. -/
  missed {width : Nat} {error : Error} {after : Bytes × Reader} : request.width? = some width →
    result = .error error after → taken.length < width
  /-- If the stream has ended, the error tells what was asked for and what was taken. -/
  told {width requested available : Nat} {after : Bytes × Reader} : request.width? = some width →
    result = .error (.endOfStream requested available) after →
    requested = width ∧ available < requested ∧ available = taken.length
  /-- Interrupted calls and faults that say that the stream has ended are not passed on. -/
  fault {fault : Fault} {after : Bytes × Reader} : result = .error (.transport fault) after →
    fault.kind ≠ .interrupted ∧ fault.kind ≠ .unexpectedEof
  /-- To ask for nothing is to get it, whatever the source would do next. -/
  nothing : request.width? = some 0 → ∃ answer,
    result = .ok answer (request.bufferAfter before.1 [], before.2)

variable {request : Request} {before : Bytes × Reader} {width : Nat}

theorem beside_ok {read : Read Answer} {answer : Answer} {after : Reader}
    (h : read before.2 = .ok answer after) :
    beside read before = .ok answer (before.1, after) := by
  simp only [beside, h]

theorem beside_error {read : Read Answer} {error : Error} {after : Reader}
    (h : read before.2 = .error error after) :
    beside read before = .error error (before.1, after) := by
  simp only [beside, h]

/-- A request of known width is a read of that width beside the buffer, or is for the buffer. -/
theorem perform_cases (hw : request.width? = some width) :
    (∃ read : Read Answer, Reader.Needs read width ∧ request.perform = beside read ∧
      ∀ buffer taken, request.bufferAfter buffer taken = buffer) ∨
    ∃ lent, request = .fillBuffer lent ∧ lent.length = width := by
  cases request <;> cases hw
  case u8 => exact .inl ⟨_, ((Reader.needs_number 1).map _).map _, rfl, fun _ _ => rfl⟩
  case u16 => exact .inl ⟨_, ((Reader.needs_number 2).map _).map _, rfl, fun _ _ => rfl⟩
  case u32 => exact .inl ⟨_, ((Reader.needs_number 4).map _).map _, rfl, fun _ _ => rfl⟩
  case u64 => exact .inl ⟨_, ((Reader.needs_number 8).map _).map _, rfl, fun _ _ => rfl⟩
  case octets => exact .inl ⟨_, (Reader.needs_octets _).map _, rfl, fun _ _ => rfl⟩
  case byteString => exact .inl ⟨_, (Reader.needs_byteString _).map _, rfl, fun _ _ => rfl⟩
  case fillBuffer lent => exact .inr ⟨lent, rfl, rfl⟩

theorem perform_enough (hw : request.width? = some width)
    (hl : width ≤ before.2.arriving.length) :
    ∃ answer, request.perform before =
      .ok answer (request.bufferAfter before.1 (before.2.arriving.take width),
        before.2.skip width) := by
  obtain ⟨read, hneeds, hperform, hbuffer⟩ | ⟨lent, rfl, rfl⟩ := perform_cases hw
  · obtain ⟨answer, hread⟩ := hneeds.enough before.2 hl
    rw [hperform, hbuffer]
    exact ⟨answer, beside_ok hread⟩
  · have hfront := (List.take_append_drop lent.length before.2.arriving).symm
    have htake := List.length_take_of_le hl
    have hdrop : lent.drop lent.length = [] := List.drop_length
    rw [bufferAfter, htake, hdrop, List.append_nil]
    exact ⟨.filled, map_ok (Reader.fillBuffer_front hfront htake)⟩

theorem perform_short (hw : request.width? = some width)
    (hl : before.2.arriving.length < width) :
    request.perform before =
      .error (Reader.failure width before.2.arriving.length before.2.ending)
        (request.bufferAfter before.1 before.2.arriving, before.2.drain) := by
  obtain ⟨read, hneeds, hperform, hbuffer⟩ | ⟨lent, rfl, rfl⟩ := perform_cases hw
  · rw [hperform, hbuffer]
    exact beside_error (hneeds.short before.2 hl)
  · exact map_error (Reader.fillBuffer_short rfl hl)

/-- A step that has what it asked for. -/
theorem accounts_moved {count : Nat} (answer : Answer) (hl : count ≤ before.2.arriving.length)
    (hw : ∀ {width}, request.width? = some width → count = width) :
    request.Accounts before (before.2.arriving.take count)
      (.ok answer (request.bufferAfter before.1 (before.2.arriving.take count),
        before.2.skip count)) where
  took := Reader.took_skip hl
  buffer := rfl
  met hwidth _ := (List.length_take_of_le hl).trans (hw hwidth)
  missed _ h := nomatch h
  told _ h := nomatch h
  fault h := nomatch h
  nothing hwidth := by
    obtain rfl := hw hwidth
    exact ⟨answer, by rw [Reader.skip_zero, List.take_zero]⟩

/-- A step that meets the stop. -/
theorem accounts_stopped {need got : Nat}
    (hw : ∀ {width}, request.width? = some width →
      need = width ∧ got = before.2.arriving.length ∧ got < need) :
    request.Accounts before before.2.arriving
      (.error (Reader.failure need got before.2.ending)
        (request.bufferAfter before.1 before.2.arriving, before.2.drain)) where
  took := before.2.took_drain
  buffer := rfl
  met _ h := nomatch h
  missed hwidth _ := by
    obtain ⟨rfl, rfl, hl⟩ := hw hwidth
    exact hl
  told hwidth h := by
    obtain ⟨rfl, rfl, hl⟩ := hw hwidth
    cases hstop : before.2.ending with
    | ended =>
      rw [hstop] at h
      cases h
      exact ⟨rfl, hl, rfl⟩
    | failed fault =>
      rw [hstop] at h
      cases h
  fault h := by
    cases hstop : before.2.ending with
    | ended =>
      rw [hstop] at h
      cases h
    | failed fault =>
      rw [hstop] at h
      cases h
      exact Source.kind_of_ending hstop
  nothing hwidth := by
    obtain ⟨rfl, -, hl⟩ := hw hwidth
    exact absurd hl (Nat.not_lt_zero got)

/-- A step that has read all of a value, but not in its shortest form. -/
theorem accounts_nonCanonical {count encodedLength : Nat} {value : UInt64}
    (hl : count ≤ before.2.arriving.length) :
    compactSize.Accounts before (before.2.arriving.take count)
      (.error (.nonCanonical value encodedLength) (before.1, before.2.skip count)) where
  took := Reader.took_skip hl
  buffer := rfl
  met hwidth := nomatch hwidth
  missed hwidth := nomatch hwidth
  told hwidth := nomatch hwidth
  fault h := nomatch h
  nothing hwidth := nomatch hwidth

/-- A compact size takes its first byte and those that it announces, as far as they arrive. -/
theorem exists_accounts_compactSize (before : Bytes × Reader) :
    ∃ taken, compactSize.Accounts before taken (compactSize.perform before) := by
  have hshape := CompactSize.shape before.2.arriving
  generalize harriving : before.2.arriving = bytes at hshape
  cases hshape with
  | none =>
    rw [perform, beside_error (map_error (Reader.compactSize_none harriving))]
    exact ⟨_, accounts_stopped fun hwidth => nomatch hwidth⟩
  | cut first hl =>
    rw [perform, beside_error (map_error (Reader.compactSize_cut harriving hl))]
    exact ⟨_, accounts_stopped fun hwidth => nomatch hwidth⟩
  | wide first tail rest hl hs =>
    have hread := Reader.compactSize_form harriving hl
    rw [← hl, if_pos hs] at hread
    rw [perform, beside_error (map_error hread)]
    refine ⟨_, accounts_nonCanonical ?_⟩
    rw [harriving, List.length_cons, List.length_append]
    omega
  | whole value rest =>
    rw [perform, beside_ok (map_ok (Reader.compactSize_front harriving))]
    refine ⟨_, accounts_moved _ ?_ fun hwidth => nomatch hwidth⟩
    rw [harriving, List.length_append, CompactSize.length_encode]
    exact Nat.le_add_right ..

/-- **Every step accounts for what it has taken.** -/
theorem exists_accounts (request : Request) (before : Bytes × Reader) :
    ∃ taken, request.Accounts before taken (request.perform before) := by
  cases hw : request.width? with
  | none =>
    cases request <;> cases hw
    exact exists_accounts_compactSize before
  | some width =>
    by_cases hl : before.2.arriving.length < width
    · rw [perform_short hw hl]
      refine ⟨_, accounts_stopped fun hwidth => ?_⟩
      rw [hw] at hwidth
      cases hwidth
      exact ⟨rfl, rfl, hl⟩
    · obtain ⟨answer, hperform⟩ := perform_enough hw (Nat.le_of_not_lt hl)
      rw [hperform]
      refine ⟨_, accounts_moved answer (Nat.le_of_not_lt hl) fun hwidth => ?_⟩
      rw [hw] at hwidth
      cases hwidth
      rfl

/-! ### One step after the other -/

/-- The buffer and the reader when these requests have been made, whether they succeeded or not. -/
def leave : List Request → Bytes × Reader → Bytes × Reader
  | [], state => state
  | request :: rest, state => leave rest (endState (request.perform state))

/-- What is seen of a script is what is seen of its first steps, and then of those that follow. -/
theorem run_append (past rest : List Request) (state : Bytes × Reader) :
    run (past ++ rest) state = run past state ++ run rest (leave past state) := by
  induction past generalizing state with
  | nil => rfl
  | cons request past ih => exact congrArg _ (ih _)

/-- By induction on the script: each step takes up where the one before it has left the source. -/
theorem took_leave (past : List Request) (state : Bytes × Reader) :
    ∃ taken, state.2.Took (leave past state).2 taken := by
  induction past generalizing state with
  | nil => exact ⟨[], .nothing state.2⟩
  | cons request past ih =>
    obtain ⟨first, haccounts⟩ := request.exists_accounts state
    obtain ⟨others, htook⟩ := ih (endState (request.perform state))
    exact ⟨first ++ others, haccounts.took.trans htook⟩

/-- **A reader accounts for every byte**, over any source, after any script and in the step that
follows: what it has counted and what is still to come is all that the source held, and the step
keeps to what it owes. -/
theorem script_accounts (source : Source) (buffer : Bytes) (past : List Request)
    (request : Request) :
    let start : Bytes × Reader := (buffer, ⟨source, 0⟩)
    let before := leave past start
    let result := request.perform before
    run (past ++ [request]) start = run past start ++ [seen (Sight.of 0) result] ∧
    (endState result).2.bytesRead + (endState result).2.source.remaining = source.remaining ∧
    ∃ taken, request.Accounts before taken result := by
  intro start before result
  obtain ⟨behind, hbefore⟩ := took_leave past start
  obtain ⟨taken, haccounts⟩ := request.exists_accounts before
  have htotal := (hbefore.trans haccounts.took).total
  rw [show start.2.bytesRead = 0 from rfl, Nat.zero_add] at htotal
  exact ⟨run_append past [request] start, htotal, taken, haccounts⟩

/-- Three bytes, a reset in the middle of a buffer of four, and the stream goes on after it. -/
example :
    let source : Source := [.data [1, 2, 3], .fault ⟨.connectionReset, "reset"⟩, .data [4]]
    run [.u8, .fillBuffer [9, 9, 9, 9], .u8, .u16] ([], ⟨source, 0⟩) =
      [(.ok (.u8 1), ⟨[], 1, [2, 3, 4]⟩),
        (.error (.transport ⟨.connectionReset, "reset"⟩), ⟨[2, 3, 9, 9], 3, [4]⟩),
        (.ok (.u8 4), ⟨[2, 3, 9, 9], 4, []⟩),
        (.error (.endOfStream 2 0), ⟨[2, 3, 9, 9], 4, []⟩)] := by
  rfl

end Request
end Gossip.Stream
