import Gossip.Frame.Codec
import Gossip.Proofs.Respects

/-! Writing to any sink.

A sink may take less than it is offered, it may be interrupted, and it may fail. Only a failure ends
the writing, and `failure?` is the one that lies ahead of a sink. `Takes` says what becomes of bytes
on such a sink: all are taken, and the same failure still lies ahead; or the failure is met, and a
front of the bytes has been taken that is not all of them. One offer keeps to this, and so do fields
that are written one behind the other (`Writer.fields_takes`).

Interrupted calls leave no trace: with and without them (`calm`) the same is written. -/
namespace Gossip.Stream

/-! ### Failures -/

/-- The failure that an event is. A short write and an interrupted call are none; to take no byte at
all is one. -/
def WriteEvent.failure? : WriteEvent → Option Fault
  | .accept 0 => some .outOfRoom
  | .accept (_ + 1) => none
  | .fault met => if met.kind = .interrupted then none else some met

theorem WriteEvent.kind_of_failure? {event : WriteEvent} {fault : Fault}
    (h : event.failure? = some fault) : fault.kind ≠ .interrupted := by
  cases event with
  | accept limit =>
    cases limit with
    | zero =>
      cases h
      decide
    | succ limit => cases h
  | fault met =>
    by_cases hkind : met.kind = .interrupted
    · rw [failure?, if_pos hkind] at h
      cases h
    · rw [failure?, if_neg hkind] at h
      cases h
      exact hkind

namespace Intake

/-- The failure that is met if writing goes on for long enough. -/
def failure? : Intake → Option Fault
  | .script events => events.findSome? WriteEvent.failure?
  | .room _ => some .outOfRoom

theorem kind_of_failure? {intake : Intake} {fault : Fault} (h : intake.failure? = some fault) :
    fault.kind ≠ .interrupted := by
  cases intake with
  | script events =>
    obtain ⟨event, -, hevent⟩ := List.exists_of_findSome?_eq_some h
    exact WriteEvent.kind_of_failure? hevent
  | room left =>
    cases h
    decide

/-! ### Offers -/

/-- What becomes of bytes. -/
inductive Takes (intake : Intake) (bytes : Bytes) : Offer → Prop where
  /-- All are taken, and the same failure lies ahead. -/
  | all {rest : Intake} : rest.failure? = intake.failure? → Takes intake bytes ⟨bytes, none, rest⟩
  /-- The failure is met before all are taken. -/
  | part {taken missing : Bytes} {fault : Fault} {rest : Intake} :
    intake.failure? = some fault → bytes = taken ++ missing → missing ≠ [] →
    Takes intake bytes ⟨taken, some fault, rest⟩

variable {intake rest : Intake} {bytes : Bytes} {offer : Offer}

/-- When more bytes have been taken before, from an intake with the same failure ahead. -/
theorem Takes.behind (front : Bytes) (h : Takes rest bytes offer)
    (hrest : rest.failure? = intake.failure?) :
    Takes intake (front ++ bytes) {offer with taken := front ++ offer.taken} := by
  cases h with
  | all hleft => exact .all (hleft.trans hrest)
  | part hfault hbytes hmissing =>
    refine .part (hrest.symm.trans hfault) ?_ hmissing
    rw [hbytes, List.append_assoc]

/-- By induction on the events: a short write takes a front of the bytes, an interrupted call
nothing, and both leave the failure that lies ahead. -/
theorem offerScript_takes (events : List WriteEvent) {bytes : Bytes} (h : bytes ≠ []) :
    Takes (.script events) bytes (offerScript events bytes) := by
  induction events generalizing bytes with
  | nil => exact .all rfl
  | cons event events ih =>
    cases event with
    | fault fault =>
      by_cases hkind : fault.kind = .interrupted
      · simp only [offerScript, if_pos hkind]
        refine (ih h).behind [] ?_
        simp only [failure?, List.findSome?_cons, WriteEvent.failure?, if_pos hkind]
      · simp only [offerScript, if_neg hkind]
        refine .part ?_ (List.nil_append bytes).symm h
        simp only [failure?, List.findSome?_cons, WriteEvent.failure?, if_neg hkind]
    | accept limit =>
      cases limit with
      | zero => exact .part rfl (List.nil_append bytes).symm h
      | succ limit =>
        have hahead : failure? (.script events) =
            failure? (.script (.accept (limit + 1) :: events)) := rfl
        cases hleft : bytes.drop (limit + 1) with
        | nil =>
          simp only [offerScript, hleft]
          exact .all hahead
        | cons byte left =>
          simp only [offerScript, hleft]
          have hbytes : bytes = bytes.take (limit + 1) ++ (byte :: left) := by
            rw [← hleft, List.take_append_drop]
          have htakes := (ih (List.cons_ne_nil byte left)).behind (bytes.take (limit + 1)) hahead
          rw [← hbytes] at htakes
          exact htakes

theorem offer_takes (intake : Intake) (bytes : Bytes) :
    Takes intake bytes (intake.offer bytes) := by
  cases bytes with
  | nil => exact .all rfl
  | cons byte bytes =>
    cases intake with
    | script events => exact offerScript_takes events (List.cons_ne_nil byte bytes)
    | room left =>
      by_cases hfits : (byte :: bytes).length ≤ left
      · simp only [offer, if_pos hfits]
        exact .all rfl
      · simp only [offer, if_neg hfits]
        refine .part rfl (List.take_append_drop left (byte :: bytes)).symm ?_
        exact mt List.drop_eq_nil_iff.mp hfits

/-- A short write of two bytes, an interrupted call, and a sink that then takes nothing. -/
example :
    Intake.offer (.script [.accept 2, .fault ⟨.interrupted, "call interrupted"⟩, .accept 0])
      [1, 2, 3] = ⟨[1, 2], some .outOfRoom, .script []⟩ := by
  decide

end Intake

/-! ### Fields -/

namespace Intake

/-- Offers fields one behind the other, up to the first that is not taken whole. -/
def offerAll : Intake → List Bytes → Offer
  | intake, [] => ⟨[], none, intake⟩
  | intake, bytes :: list =>
    let first := intake.offer bytes
    match first.failure with
    | some _ => first
    | none =>
      let later := first.rest.offerAll list
      { later with taken := first.taken ++ later.taken }

/-- By induction on the fields: what one field leaves of the script is what the next one meets. -/
theorem offerAll_takes (intake : Intake) (list : List Bytes) :
    Takes intake list.flatten (intake.offerAll list) := by
  induction list generalizing intake with
  | nil => exact .all rfl
  | cons bytes list ih =>
    rw [List.flatten_cons]
    have hfield := intake.offer_takes bytes
    simp only [offerAll]
    generalize intake.offer bytes = offer at hfield
    cases hfield with
    | @all rest hrest => exact (ih rest).behind bytes hrest
    | @part taken missing fault rest hfault hbytes hmissing =>
      refine .part hfault ?_ (List.append_ne_nil_of_left_ne_nil hmissing list.flatten)
      rw [hbytes, List.append_assoc]

end Intake

/-- The sink after an offer to it. -/
def Sink.after (sink : Sink) (offer : Intake.Offer) : Sink :=
  {sink with intake := offer.rest, reversed := offer.taken.reverseAux sink.reversed}

theorem Sink.writeAll_eq (sink : Sink) (bytes : Bytes) :
    sink.writeAll bytes =
      ((sink.intake.offer bytes).failure, sink.after (sink.intake.offer bytes)) := rfl

theorem Sink.taken_after (sink : Sink) (offer : Intake.Offer) :
    (sink.after offer).taken = sink.taken ++ offer.taken := by
  simp [after, taken, List.reverseAux_eq]

theorem Sink.after_after (sink : Sink) (offer later : Intake.Offer) :
    (sink.after offer).after later =
      sink.after {later with taken := offer.taken ++ later.taken} := by
  simp [after, List.reverseAux_eq]

namespace Writer

/-- What a run of fields comes to, if this becomes of their bytes. -/
inductive Ends (writer : Writer) (bytes : Bytes) (offer : Intake.Offer) :
    EStateM.Result Error Writer Unit → Prop where
  | all : offer.failure = none →
    Ends writer bytes offer (.ok () ⟨writer.sink.after offer, writer.bytesWritten + bytes.length⟩)
  | part {fault : Fault} {count : Nat} : offer.failure = some fault →
    Ends writer bytes offer (.error (.transport fault) ⟨writer.sink.after offer, count⟩)

/-- What becomes of the fields decides what writing them comes to. -/
theorem fields_ends (list : List Bytes) (writer : Writer) :
    Ends writer list.flatten (writer.sink.intake.offerAll list) (fields list writer) := by
  induction list generalizing writer with
  | nil => exact .all rfl
  | cons bytes list ih =>
    cases hfailure : (writer.sink.intake.offer bytes).failure with
    | some fault =>
      simp only [fields, field, Sink.writeAll_eq, Intake.offerAll, hfailure]
      exact .part hfailure
    | none =>
      have hsink := writer.sink.after_after (writer.sink.intake.offer bytes)
        ((writer.sink.intake.offer bytes).rest.offerAll list)
      have hends := ih ⟨writer.sink.after (writer.sink.intake.offer bytes),
        writer.bytesWritten + bytes.length⟩
      simp only [fields, field, Sink.writeAll_eq, Intake.offerAll, hfailure]
      generalize fields list _ = result at hends
      cases hends with
      | all hnone =>
        rw [Nat.add_assoc, ← List.length_append]
        exact hsink ▸ .all hnone
      | part hsome => exact hsink ▸ .part hsome

theorem fields_takes (list : List Bytes) (writer : Writer) :
    ∃ offer, writer.sink.intake.Takes list.flatten offer ∧
      Ends writer list.flatten offer (fields list writer) :=
  ⟨_, writer.sink.intake.offerAll_takes list, fields_ends list writer⟩

end Writer

/-! ### Interrupted calls -/

def WriteEvent.isInterrupted : WriteEvent → Bool
  | .accept _ => false
  | .fault met => met.kind = .interrupted

namespace Intake

/-- The intake without the interrupted calls. -/
def calm : Intake → Intake
  | .script events => .script (events.filter (!·.isInterrupted))
  | .room left => .room left

def Offer.calm (offer : Offer) : Offer := {offer with rest := offer.rest.calm}

/-- An interrupted call is made again, and might as well not have been made. -/
theorem offerScript_calm (events : List WriteEvent) (bytes : Bytes) :
    offerScript (events.filter (!·.isInterrupted)) bytes = (offerScript events bytes).calm := by
  induction events generalizing bytes with
  | nil => rfl
  | cons event events ih =>
    cases event with
    | fault fault =>
      by_cases hkind : fault.kind = .interrupted
      · rw [List.filter_cons_of_neg (by simp [WriteEvent.isInterrupted, hkind]), ih]
        simp only [offerScript, if_pos hkind]
      · rw [List.filter_cons_of_pos (by simp [WriteEvent.isInterrupted, hkind])]
        simp only [offerScript, if_neg hkind]
        rfl
    | accept limit =>
      rw [List.filter_cons_of_pos rfl]
      cases limit with
      | zero => rfl
      | succ limit =>
        cases hleft : bytes.drop (limit + 1) with
        | nil =>
          simp only [offerScript, hleft]
          rfl
        | cons byte left =>
          simp only [offerScript, hleft, ih]
          rfl

theorem offer_calm (intake : Intake) (bytes : Bytes) :
    intake.calm.offer bytes = (intake.offer bytes).calm := by
  cases bytes with
  | nil => rfl
  | cons byte bytes =>
    cases intake with
    | script events => exact offerScript_calm events (byte :: bytes)
    | room left =>
      by_cases hfits : (byte :: bytes).length ≤ left
      · simp only [offer, calm, if_pos hfits]
        rfl
      · simp only [offer, calm, if_neg hfits]
        rfl

end Intake

/-- The sink without the interrupted calls. -/
def Sink.calm (sink : Sink) : Sink := {sink with intake := sink.intake.calm}

namespace Writer

/-- The second writer is the first without the interrupted calls. -/
def Calms (a b : Writer) : Prop := b = {a with sink := a.sink.calm}

theorem respects_field (bytes : Bytes) : Respects Calms (field bytes) := by
  rintro writer _ rfl
  have hoffer : writer.sink.calm.intake.offer bytes = (writer.sink.intake.offer bytes).calm :=
    writer.sink.intake.offer_calm bytes
  simp only [field, Sink.writeAll_eq, hoffer]
  obtain ⟨taken, failure, rest⟩ := writer.sink.intake.offer bytes
  cases failure with
  | none => exact .ok rfl
  | some fault => exact .error rfl

theorem respects_fields (list : List Bytes) : Respects Calms (fields list) := by
  induction list with
  | nil => exact .pure ()
  | cons bytes list ih =>
    intro a b hab
    have hfield := respects_field bytes a b hab
    simp only [fields]
    generalize field bytes a = x, field bytes b = y at hfield
    cases hfield with
    | ok hab => exact ih _ _ hab
    | error hab => exact .error hab

end Writer
end Gossip.Stream

namespace Gossip

theorem Encoder.respects_fields (list : List Bytes) :
    Respects Stream.Writer.Calms (fields list) := by
  intro a b hab
  have hfields := Stream.Writer.respects_fields list a b hab
  simp only [fields]
  generalize Stream.Writer.fields list a = x, Stream.Writer.fields list b = y at hfields
  cases hfields with
  | ok h => exact .ok h
  | error h => exact .error h

end Gossip
