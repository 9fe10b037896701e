import Gossip.Proofs.Inventory.Entries
import Gossip.Proofs.Stream.Attempts

/-! The ledger of a writer.

A script is a list of entries that are written one after the other, whether those before them were
written or not, to a sink that may fail and go on as it likes. Each entry is a course of fields, and
the attempts at all of them make up a ledger. `fields_accounted` reads what the sink has taken and
what the writer has counted off the ledger. -/
namespace Gossip

open Gossip.Stream (Attempt Intake Offered Writer)

namespace Entry

/-- The fields of an entry in the order in which they are written. -/
def fields : Entry → List Bytes
  | .u8 value => [LittleEndian.encode 1 value.toNat]
  | .u16 value => [LittleEndian.encode 2 value.toNat]
  | .u32 value => [LittleEndian.encode 4 value.toNat]
  | .u64 value => [LittleEndian.encode 8 value.toNat]
  | .compactSize value => CompactSize.fields value
  | .raw bytes => [bytes]
  | .item written => written.fields

/-- A single field is a list of one. -/
theorem field_eq (bytes : Bytes) : Encoder.field (Writer.field bytes) = Encoder.fields [bytes] := by
  funext writer
  simp only [Encoder.field, Encoder.fields, Writer.fields]
  cases Writer.field bytes writer with
  | ok value after => rfl
  | error error after => rfl

theorem write_eq (version : ProtocolVersion) (entry : Entry) :
    entry.write version = Encoder.fields entry.fields := by
  cases entry with
  | compactSize value => rfl
  | item written => rfl
  | _ => exact field_eq _

/-- Writes entries one after the other, whether those before them were written or not. Gives what
each came to, and the writer in the end. -/
def writeEach (version : ProtocolVersion) :
    List Entry → Writer → List (Except EncodeError Unit) × Writer
  | [], writer => ([], writer)
  | entry :: rest, writer =>
    let result := entry.write version writer
    let later := writeEach version rest (endState result)
    (answer result :: later.1, later.2)

/-- One step of a script: an entry, what writing it came to, and the course of its fields. -/
structure Step where
  entry : Entry
  result : Except EncodeError Unit
  attempts : List Attempt
  course : Encoder.Course entry.fields attempts result

/-- By induction on the script: each step takes up where the one before it has left the writer. -/
theorem exists_steps (version : ProtocolVersion) (script : List Entry) (writer : Writer) :
    ∃ steps : List Step,
      steps.map Step.entry = script ∧
      steps.map Step.result = (writeEach version script writer).1 ∧
      writer.Booked (writeEach version script writer).2 (steps.flatMap Step.attempts) := by
  induction script generalizing writer with
  | nil => exact ⟨[], rfl, rfl, .nothing writer⟩
  | cons entry rest ih =>
    obtain ⟨attempts, hcourse, hbooked⟩ := Encoder.exists_course entry.fields writer
    rw [← entry.write_eq version] at hcourse hbooked
    obtain ⟨steps, hentries, hresults, hlater⟩ := ih (endState (entry.write version writer))
    refine ⟨⟨entry, _, attempts, hcourse⟩ :: steps, ?_, ?_, hbooked.trans hlater⟩
    · rw [List.map_cons, hentries]
    · rw [List.map_cons, hresults]
      rfl

end Entry

/-- Only a fault ends a course, and never an interrupted call. -/
theorem Encoder.Course.error_eq {list : List Bytes} {attempts : List Attempt} {error : EncodeError}
    (h : Course list attempts (.error error)) :
    ∃ fault : Stream.Fault, error = .transport fault ∧ fault.kind ≠ .interrupted := by
  generalize hresult : Except.error error = result at h
  induction h with
  | done => cases hresult
  | whole _ ih => exact ih hresult
  | cut hfailure =>
    cases hresult
    exact ⟨_, rfl, Attempt.kind_of_failure? hfailure⟩

/-- **A writer accounts for every field**, over any sink and any script. The attempts at the fields
are made one after the other; what the sink has taken is what they took, the whole of a field that
succeeded and a part of one that failed; and the count is that of the fields that succeeded. Of an
entry no field is offered behind one that failed, and an interrupted call fails no entry. -/
theorem Entry.fields_accounted (version : ProtocolVersion) (intake : Intake)
    (script : List Entry) :
    let (results, after) := writeEach version script ⟨{ intake }, 0⟩
    ∃ steps : List Step,
      steps.map Step.entry = script ∧ steps.map Step.result = results ∧
      let ledger := steps.flatMap Step.attempts
      Offered intake ledger after.sink.intake ∧
      after.sink.taken = ledger.flatMap Attempt.taken ∧
      after.bytesWritten = (ledger.map Attempt.counted).sum ∧
      after.bytesWritten ≤ after.sink.taken.length ∧
      (after.bytesWritten = after.sink.taken.length ↔
        ∀ attempt ∈ ledger, attempt.failure? ≠ none → attempt.taken = []) ∧
      ∀ error, .error error ∈ results →
        ∃ fault : Stream.Fault, error = .transport fault ∧ fault.kind ≠ .interrupted := by
  obtain ⟨steps, hentries, hresults, hbooked⟩ := exists_steps version script ⟨{ intake }, 0⟩
  have htaken := hbooked.taken
  have hcount := hbooked.bytesWritten
  rw [show Stream.Sink.taken { intake } = [] from rfl, List.nil_append] at htaken
  rw [show (Writer.mk { intake } 0).bytesWritten = 0 from rfl, Nat.zero_add] at hcount
  obtain ⟨hle, heq⟩ := Attempt.counted_eq_iff (steps.flatMap Step.attempts)
  rw [← htaken, ← hcount] at hle heq
  refine ⟨steps, hentries, hresults, hbooked.offered, htaken, hcount, hle, heq, ?_⟩
  intro error herror
  rw [← hresults] at herror
  obtain ⟨step, -, hstep⟩ := List.mem_map.mp herror
  have hcourse := step.course
  rw [hstep] at hcourse
  exact hcourse.error_eq

/-- A sink that fails inside the number of a compact size: its first byte is counted, the byte of the
number that was taken is not, and the next entry is written behind it. -/
example :
    let reset : Stream.Fault := ⟨.connectionReset, "reset"⟩
    let intake : Intake := .script [.accept 1, .accept 1, .accept 1, .fault reset]
    let (results, after) :=
      Entry.writeEach .current [.u8 1, .compactSize 515, .u8 2] ⟨{ intake }, 0⟩
    results = [.ok (), .error (.transport reset), .ok ()] ∧
      after.sink.taken = [1, 0xFD, 3, 2] ∧ after.bytesWritten = 3 :=
  ⟨rfl, rfl, rfl⟩

end Gossip
