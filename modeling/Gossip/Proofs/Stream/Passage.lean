import Gossip.Proofs.Stream.Offering
import Gossip.Proofs.Stream.Writing

/-! What gets through to a sink before it fails.

A write call offers what is left of one field and meets one event of the sink. `unsentAfter` says
what is then left of the fields that are to be written, and `unsent` what is left of them when every
event before the first failure has been met. `offerAll_passes` says that nothing else matters: if
nothing is left, or no failure lies ahead, the sink takes all the fields; otherwise it takes what is
not left, to the last byte. A sink with a fixed room takes what fits (`offerAll_room`). -/
namespace Gossip.Stream

/-! ### One write call -/

/-- What is let through of a field that a write call offers. -/
def WriteEvent.passed : WriteEvent → Bytes → Bytes
  | .accept limit, field => field.take limit
  | .fault _, _ => []

/-- What is left of fields when one write call has met an event. -/
def unsentAfter : List Bytes → WriteEvent → List Bytes
  | field :: rest, .accept limit =>
    match field.drop limit with
    | [] => rest
    | left => left :: rest
  | fields, _ => fields

theorem flatten_unsentAfter (field : Bytes) (rest : List Bytes) (event : WriteEvent) :
    event.passed field ++ (unsentAfter (field :: rest) event).flatten =
      (field :: rest).flatten := by
  cases event with
  | fault met => rfl
  | accept limit =>
    have hfield := List.take_append_drop limit field
    cases hleft : field.drop limit with
    | nil =>
      rw [hleft, List.append_nil] at hfield
      simp only [WriteEvent.passed, unsentAfter, hleft, hfield, List.flatten_cons]
    | cons byte left =>
      rw [hleft] at hfield
      simp only [WriteEvent.passed, unsentAfter, hleft, List.flatten_cons]
      rw [← List.append_assoc, hfield]

/-- No field is written that has no bytes. -/
def Laden (fields : List Bytes) : Prop := ∀ field ∈ fields, field ≠ []

theorem Laden.unsentAfter {fields : List Bytes} (h : Laden fields) (event : WriteEvent) :
    Laden (unsentAfter fields event) := by
  cases fields with
  | nil => exact h
  | cons field rest =>
    obtain ⟨hfield, hrest⟩ := List.forall_mem_cons.mp h
    cases event with
    | fault met => exact h
    | accept limit =>
      cases hleft : field.drop limit with
      | nil =>
        simp only [Stream.unsentAfter, hleft]
        exact hrest
      | cons byte left =>
        simp only [Stream.unsentAfter, hleft]
        exact List.forall_mem_cons.mpr ⟨List.cons_ne_nil byte left, hrest⟩

theorem Laden.flatten_ne_nil {fields : List Bytes} (h : Laden fields) (hne : fields ≠ []) :
    fields.flatten ≠ [] := by
  cases fields with
  | nil => exact absurd rfl hne
  | cons field rest =>
    exact List.append_ne_nil_of_left_ne_nil (h field (List.mem_cons_self ..)) rest.flatten

namespace Intake
variable {event : WriteEvent} {events : List WriteEvent} {field : Bytes} {rest : List Bytes}

theorem offer_script (events : List WriteEvent) (h : field ≠ []) :
    offer (.script events) field = offerScript events field := by
  cases field with
  | nil => exact absurd rfl h
  | cons byte field => rfl

/-- A write call that fails is the last one. -/
theorem offerAll_failure {fault : Fault} (h : field ≠ []) (hfault : event.failure? = some fault) :
    offerAll (.script (event :: events)) (field :: rest) = ⟨[], some fault, .script events⟩ := by
  simp only [offerAll, offer_script (event :: events) h]
  cases event with
  | accept limit =>
    cases limit with
    | zero =>
      cases hfault
      rfl
    | succ limit => cases hfault
  | fault met =>
    obtain ⟨hkind, hmet⟩ := Option.ite_none_left_eq_some.mp hfault
    cases hmet
    simp only [offerScript, if_neg hkind]

/-- After any other write call the fields that are left are offered to the events that are left. -/
theorem offerAll_passed (h : field ≠ []) (hnone : event.failure? = none) :
    offerAll (.script (event :: events)) (field :: rest) =
      let later := offerAll (.script events) (unsentAfter (field :: rest) event)
      { later with taken := event.passed field ++ later.taken } := by
  cases event with
  | fault met =>
    by_cases hkind : met.kind = .interrupted
    · simp only [offerAll, unsentAfter, WriteEvent.passed, List.nil_append, offer_script _ h,
        offerScript, if_pos hkind]
    · rw [WriteEvent.failure?, if_neg hkind] at hnone
      cases hnone
  | accept limit =>
    cases limit with
    | zero => cases hnone
    | succ limit =>
      have hfield := List.take_append_drop (limit + 1) field
      cases hleft : field.drop (limit + 1) with
      | nil =>
        rw [hleft, List.append_nil] at hfield
        simp only [offerAll, unsentAfter, WriteEvent.passed, offer_script _ h, offerScript, hleft,
          hfield]
      | cons byte left =>
        have hcons := List.cons_ne_nil byte left
        simp only [offerAll, unsentAfter, WriteEvent.passed, offer_script _ h, offerScript, hleft,
          offer_script events hcons]
        obtain ⟨taken, failure, ahead⟩ := offerScript events (byte :: left)
        cases failure with
        | none => simp only [List.append_assoc]
        | some fault => rfl

/-! ### All write calls -/

/-- What is left of fields when the write calls have met all events before the first failure. -/
def unsent (events : List WriteEvent) (fields : List Bytes) : List Bytes :=
  (events.takeWhile (·.failure?.isNone)).foldl unsentAfter fields

theorem unsent_failure {fault : Fault} (hfault : event.failure? = some fault)
    (fields : List Bytes) : unsent (event :: events) fields = fields := by
  simp [unsent, hfault]

theorem unsent_passed (hnone : event.failure? = none) (fields : List Bytes) :
    unsent (event :: events) fields = unsent events (unsentAfter fields event) := by
  simp [unsent, hnone]

theorem unsent_nil (events : List WriteEvent) : unsent events [] = [] := by
  induction events with
  | nil => rfl
  | cons event events ih =>
    cases hfailure : event.failure? with
    | some fault => exact unsent_failure hfailure []
    | none =>
      rw [unsent_passed hfailure]
      exact ih

theorem laden_unsent {fields : List Bytes} (h : Laden fields) (events : List WriteEvent) :
    Laden (unsent events fields) := by
  induction events generalizing fields with
  | nil => exact h
  | cons event events ih =>
    cases hfailure : event.failure? with
    | some fault =>
      rw [unsent_failure hfailure]
      exact h
    | none =>
      rw [unsent_passed hfailure]
      exact ih (h.unsentAfter event)

/-- What becomes of fields on a sink that meets these events. -/
inductive Passes (events : List WriteEvent) (fields : List Bytes) : Offer → Prop where
  /-- There is no failure, or nothing is left when it is met. All is taken. -/
  | whole {left : Intake} :
    events.findSome? WriteEvent.failure? = none ∨ unsent events fields = [] →
    Passes events fields ⟨fields.flatten, none, left⟩
  /-- Something is left when the first failure is met. All else is taken. -/
  | cut {taken : Bytes} {fault : Fault} {left : Intake} :
    events.findSome? WriteEvent.failure? = some fault → unsent events fields ≠ [] →
    fields.flatten = taken ++ (unsent events fields).flatten →
    Passes events fields ⟨taken, some fault, left⟩

theorem offerAll_all (fields : List Bytes) :
    offerAll (.script []) fields = ⟨fields.flatten, none, .script []⟩ := by
  induction fields with
  | nil => rfl
  | cons field rest ih => simp only [offerAll, offer_all, ih, List.flatten_cons]

/-- By induction on the events, each of which is met by one write call. -/
theorem offerAll_passes (events : List WriteEvent) {fields : List Bytes} (h : Laden fields) :
    Passes events fields (offerAll (.script events) fields) := by
  induction events generalizing fields with
  | nil =>
    rw [offerAll_all]
    exact .whole (.inl rfl)
  | cons event events ih =>
    cases fields with
    | nil => exact .whole (.inr (unsent_nil _))
    | cons field rest =>
      have hfield := h field (List.mem_cons_self ..)
      cases hfailure : event.failure? with
      | some fault =>
        rw [offerAll_failure hfield hfailure]
        refine .cut ?_ ?_ ?_
        · rw [List.findSome?_cons, hfailure]
        · rw [unsent_failure hfailure]
          exact List.cons_ne_nil field rest
        · rw [unsent_failure hfailure, List.nil_append]
      | none =>
        have hflatten := flatten_unsentAfter field rest event
        have hleft : unsent (event :: events) (field :: rest) = unsent events _ :=
          unsent_passed hfailure (field :: rest)
        have hahead : (event :: events).findSome? WriteEvent.failure? =
            events.findSome? WriteEvent.failure? := by
          rw [List.findSome?_cons, hfailure]
        have hlater := ih (h.unsentAfter event)
        rw [offerAll_passed hfield hfailure]
        generalize offerAll (.script events) _ = later at hlater
        cases hlater with
        | whole hall =>
          rw [← hahead, ← hleft] at hall
          simp only [hflatten]
          exact .whole hall
        | cut hfault hne hbytes =>
          rw [← hleft] at hne hbytes
          refine .cut (hahead.trans hfault) hne ?_
          rw [← hflatten, hbytes, List.append_assoc]

/-- Five bytes in two fields: the second write call takes no more than is left of the first field,
and one byte gets through of the second. -/
example : unsent [.accept 1, .accept 9, .fault ⟨.interrupted, "again"⟩, .accept 1, .accept 0]
    [[1, 2], [3, 4, 5]] = [[4, 5]] := rfl

/-! ### A fixed room -/

/-- By induction on the fields: what one field leaves of the room is there for the next. -/
theorem offerAll_room (room : Nat) (fields : List Bytes) :
    offerAll (.room room) fields =
      if fields.flatten.length ≤ room then
        ⟨fields.flatten, none, .room (room - fields.flatten.length)⟩
      else ⟨fields.flatten.take room, some .outOfRoom, .room 0⟩ := by
  induction fields generalizing room with
  | nil => rfl
  | cons field rest ih =>
    have hoffer : offer (.room room) field =
        if field.length ≤ room then ⟨field, none, .room (room - field.length)⟩
        else ⟨field.take room, some .outOfRoom, .room 0⟩ := by
      cases field <;> rfl
    rw [List.flatten_cons, List.length_append]
    by_cases hfield : field.length ≤ room
    · rw [if_pos hfield] at hoffer
      simp only [offerAll, hoffer, ih]
      by_cases hrest : rest.flatten.length ≤ room - field.length
      · rw [if_pos hrest, if_pos (by omega), Nat.sub_sub]
      · rw [if_neg hrest, if_neg (by omega), List.take_append, List.take_of_length_le hfield]
    · rw [if_neg hfield] at hoffer
      simp only [offerAll, hoffer]
      rw [if_neg (by omega), List.take_append_of_le_length (by omega)]

end Intake
end Gossip.Stream
