import Mathlib.Algebra.Ring.Nat
import Gossip.Proofs.Stream.Offering

/-! What a writer accounts for.

Each field is offered to the sink on its own, and an `Attempt` is what became of one field: the sink
took it whole, or a write call failed while bytes of it were missing. A writer books its attempts
(`Booked`): the sink has taken what they say, in order, and the count is that of the fields that
were taken whole. So it falls short of what the sink has taken exactly by what was taken of fields
that failed (`counted_eq_iff`).

Of fields that belong together each is offered after the one before it, and none after one that
failed (`Course`). `exists_course` says that writing fields is such a course, and books it. -/
namespace Gossip.Stream

/-! ### Attempts -/

/-- What became of a field that was offered to a sink. -/
inductive Attempt where
  /-- The sink took all of it. -/
  | whole (field : Bytes)
  /-- A write call failed while some bytes were missing. An interrupted call is no failure. -/
  | cut (taken missing : Bytes) (fault : Fault) (incomplete : missing ≠ [])
    (failed : fault.kind ≠ .interrupted)

namespace Attempt

/-- The field that was offered. -/
def field : Attempt → Bytes
  | .whole field => field
  | .cut taken missing _ _ _ => taken ++ missing

/-- What the sink took of it. -/
def taken : Attempt → Bytes
  | .whole field => field
  | .cut taken _ _ _ _ => taken

/-- What it adds to the count of the writer. -/
def counted : Attempt → Nat
  | .whole field => field.length
  | .cut _ _ _ _ _ => 0

def failure? : Attempt → Option Fault
  | .whole _ => none
  | .cut _ _ fault _ _ => some fault

theorem kind_of_failure? {attempt : Attempt} {fault : Fault} (h : attempt.failure? = some fault) :
    fault.kind ≠ .interrupted := by
  cases attempt with
  | whole field => cases h
  | cut taken missing met incomplete failed =>
    cases h
    exact failed

theorem counted_le (attempt : Attempt) : attempt.counted ≤ attempt.taken.length := by
  cases attempt with
  | whole field => exact Nat.le_refl _
  | cut taken missing fault incomplete failed => exact Nat.zero_le _

theorem counted_eq (attempt : Attempt) :
    attempt.counted = attempt.taken.length ↔ attempt.failure? ≠ none → attempt.taken = [] := by
  cases attempt with
  | whole field => simp [counted, taken, failure?]
  | cut taken missing fault incomplete failed =>
    simp only [counted, Attempt.taken, failure?]
    rw [eq_comm, List.length_eq_zero_iff]
    simp

/-- By induction on the attempts: no count is more than what was taken, so the sums agree only where
each does. -/
theorem counted_eq_iff (attempts : List Attempt) :
    (attempts.map counted).sum ≤ (attempts.flatMap taken).length ∧
      ((attempts.map counted).sum = (attempts.flatMap taken).length ↔
        ∀ attempt ∈ attempts, attempt.failure? ≠ none → attempt.taken = []) := by
  induction attempts with
  | nil => simp
  | cons attempt rest ih =>
    obtain ⟨hle, heq⟩ := ih
    have hfirst := attempt.counted_le
    rw [List.forall_mem_cons, ← heq, ← attempt.counted_eq, List.map_cons, List.sum_cons,
      List.flatMap_cons, List.length_append]
    omega

end Attempt

/-- Whatever is offered, it is taken whole or cut short. -/
theorem Intake.exists_attempt (intake : Intake) (bytes : Bytes) :
    ∃ (attempt : Attempt) (rest : Intake), attempt.field = bytes ∧
      intake.offer bytes = ⟨attempt.taken, attempt.failure?, rest⟩ := by
  have htakes := intake.offer_takes bytes
  generalize intake.offer bytes = offer at htakes
  cases htakes with
  | @all rest _ => exact ⟨.whole bytes, rest, rfl, rfl⟩
  | @part taken missing fault rest hfault hbytes hmissing =>
    exact ⟨.cut taken missing fault hmissing (kind_of_failure? hfault), rest, hbytes.symm, rfl⟩

/-- From one state of an intake to a later one these attempts were made, one after the other. -/
inductive Offered : Intake → List Attempt → Intake → Prop where
  | nil (intake : Intake) : Offered intake [] intake
  | cons {intake between after : Intake} {attempt : Attempt} {rest : List Attempt} :
    intake.offer attempt.field = ⟨attempt.taken, attempt.failure?, between⟩ →
    Offered between rest after → Offered intake (attempt :: rest) after

theorem Offered.append {before between after : Intake} {first second : List Attempt}
    (h : Offered before first between) (h' : Offered between second after) :
    Offered before (first ++ second) after := by
  induction h with
  | nil intake => exact h'
  | cons hoffer _ ih => exact .cons hoffer (ih h')

/-! ### What is booked -/

namespace Writer

/-- From one state of a writer to a later one these attempts were made: the sink has taken what they
say, and the fields that were taken whole are counted. -/
structure Booked (before after : Writer) (attempts : List Attempt) : Prop where
  offered : Offered before.sink.intake attempts after.sink.intake
  taken : after.sink.taken = before.sink.taken ++ attempts.flatMap Attempt.taken
  bytesWritten : after.bytesWritten = before.bytesWritten + (attempts.map Attempt.counted).sum

variable {before between after : Writer} {first second : List Attempt}

theorem Booked.nothing (writer : Writer) : Booked writer writer [] where
  offered := .nil writer.sink.intake
  taken := (List.append_nil _).symm
  bytesWritten := rfl

theorem Booked.trans (h : Booked before between first) (h' : Booked between after second) :
    Booked before after (first ++ second) where
  offered := h.offered.append h'.offered
  taken := by rw [h'.taken, h.taken, List.flatMap_append, List.append_assoc]
  bytesWritten := by
    rw [h'.bytesWritten, h.bytesWritten, List.map_append, List.sum_append, Nat.add_assoc]

/-- One field: what becomes of it is the result, and it is booked. -/
theorem exists_booked (bytes : Bytes) (writer : Writer) :
    ∃ (attempt : Attempt) (after : Writer), attempt.field = bytes ∧ Booked writer after [attempt] ∧
      field bytes writer = match attempt.failure? with
        | none => .ok () after
        | some fault => .error (.transport fault) after := by
  obtain ⟨attempt, rest, hfield, hoffer⟩ := writer.sink.intake.exists_attempt bytes
  have hbooked : Booked writer
      ⟨writer.sink.after ⟨attempt.taken, attempt.failure?, rest⟩,
        writer.bytesWritten + attempt.counted⟩ [attempt] := by
    constructor
    · refine .cons ?_ (.nil rest)
      rw [hfield]
      exact hoffer
    · rw [Sink.taken_after, List.flatMap_singleton]
    · rw [List.map_singleton, List.sum_singleton]
  refine ⟨attempt, _, hfield, hbooked, ?_⟩
  subst hfield
  simp only [field, Sink.writeAll_eq, hoffer]
  cases attempt with
  | whole field => rfl
  | cut taken missing fault incomplete failed => rfl

end Writer
end Gossip.Stream

namespace Gossip.Encoder
open Gossip.Stream

/-! ### Fields that belong together -/

/-- How fields fare that are written in order, and what writing them comes to. -/
inductive Course : List Bytes → List Attempt → Except EncodeError Unit → Prop where
  /-- No field is left. -/
  | done : Course [] [] (.ok ())
  /-- The first field is taken whole, and the others follow. -/
  | whole {field : Bytes} {rest : List Bytes} {attempts : List Attempt}
    {result : Except EncodeError Unit} : Course rest attempts result →
    Course (field :: rest) (.whole field :: attempts) result
  /-- The first field is cut short, and no other is offered. -/
  | cut {attempt : Attempt} {fault : Fault} {rest : List Bytes} : attempt.failure? = some fault →
    Course (attempt.field :: rest) [attempt] (.error (.transport fault))

/-- By induction on the fields: those that follow one that is taken whole meet the sink as it has
left it. -/
theorem exists_course (list : List Bytes) (writer : Writer) :
    ∃ attempts, Course list attempts (answer (fields list writer)) ∧
      Writer.Booked writer (endState (fields list writer)) attempts := by
  induction list generalizing writer with
  | nil => exact ⟨[], .done, .nothing writer⟩
  | cons bytes list ih =>
    obtain ⟨attempt, after, rfl, hbooked, hfield⟩ := Writer.exists_booked bytes writer
    cases attempt with
    | whole field =>
      have hrest : fields (field :: list) writer = fields list after := by
        simp only [fields, Writer.fields]
        rw [show Writer.field field writer = .ok () after from hfield]
      obtain ⟨attempts, hcourse, hlater⟩ := ih after
      rw [← hrest] at hcourse hlater
      exact ⟨.whole field :: attempts, .whole hcourse, hbooked.trans hlater⟩
    | cut taken missing fault incomplete failed =>
      have hstop : fields ((taken ++ missing) :: list) writer =
          .error (.transport fault) after := by
        simp only [fields, Writer.fields]
        rw [show Writer.field (taken ++ missing) writer = .error (.transport fault) after
          from hfield]
        rfl
      refine ⟨[.cut taken missing fault incomplete failed], ?_, ?_⟩
      · rw [Attempt.field, hstop]
        exact @Course.cut (.cut taken missing fault incomplete failed) fault list rfl
      · rw [Attempt.field, hstop]
        exact hbooked

end Gossip.Encoder
