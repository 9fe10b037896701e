import Gossip.Frame.Basic
import Gossip.Proofs.Frame.Command

/-! The two forms of a command.

A command is made from a text or from a header field, and each has a check of its own: a text may be
too long or hold characters that are not graphic ASCII, a field may hold such bytes or a name behind
zeros. `forms_agree` says that the same commands come of both, each from one text and one field, so
that texts of commands can be compared in place of fields. -/
namespace Gossip

/-! ### Graphic characters -/

/-- A byte is graphic if it is a graphic character of ASCII. -/
theorem isGraphic_eq (byte : UInt8) : isGraphic byte =
    decide ('!' ≤ Char.ofNat byte.toNat ∧ Char.ofNat byte.toNat ≤ '~') := by
  have hval : (Char.ofNat byte.toNat).val.toNat = byte.toNat := Text.toNat_ofNat_byte byte
  simp only [isGraphic, Char.le_def, UInt32.le_iff_toNat_le, UInt8.le_iff_toNat_le, hval,
    Bool.decide_and]
  rfl

namespace Command

/-! ### Texts -/

theorem isName_iff (text : String) : IsName text ↔
    (Text.utf8 text).length ≤ 12 ∧ ∀ char ∈ text.toList, '!' ≤ char ∧ char ≤ '~' := by
  have hascii : ∀ c : Char, decide ('!' ≤ c ∧ c ≤ '~') = true → c.toNat ≤ 0x7F := by
    intro c hc
    exact Nat.le_trans (UInt32.le_iff_toNat_le.mp (Char.le_def.mp (of_decide_eq_true hc).2))
      (by decide)
  have hall := Text.all_utf8_iff hascii text
  simp only [decide_eq_true_eq] at hall
  simp only [IsName, List.all_eq_true, isGraphic_eq, decide_eq_true_eq, hall]

theorem isName_text (command : Command) : IsName command.text := by
  rw [IsName, utf8_text]
  exact ⟨command.fits, command.graphic⟩

theorem exists_ofText?_iff (text : String) :
    (∃ command, ofText? text = some command) ↔ IsName text := by
  constructor
  · rintro ⟨command, h⟩
    by_cases hname : IsName text
    · exact hname
    · rw [ofText?_eq_none hname] at h
      cases h
  · intro hname
    obtain ⟨command, h, -⟩ := exists_ofText? hname
    exact ⟨command, h⟩

/-- The command that is made from a text has this text. -/
theorem text_of_ofText? {text : String} {command : Command} (h : ofText? text = some command) :
    command.text = text := by
  obtain ⟨found, hfound, htext⟩ := exists_ofText? ((exists_ofText?_iff text).mp ⟨command, h⟩)
  rw [h] at hfound
  cases hfound
  exact htext

theorem ofText?_text (command : Command) : ofText? command.text = some command := by
  obtain ⟨found, hfound, htext⟩ := exists_ofText? command.isName_text
  rw [hfound, eq_of_text_eq htext]

/-! ### Fields -/

/-- The command that is made from a field has this field. -/
theorem field_of_ofField? {field : Octets 12} {command : Command}
    (h : ofField? field = some command) : command.field = field := by
  by_cases hfield : IsField field.bytes
  · obtain ⟨found, rfl⟩ := exists_field hfield
    rw [ofField?_field] at h
    cases h
    rfl
  · rw [ofField?_eq_none hfield] at h
    cases h

theorem eq_iff_field_eq (a b : Command) : a = b ↔ a.field = b.field := by
  refine ⟨congrArg field, fun h => ?_⟩
  have hread := ofField?_field a
  rw [h, ofField?_field] at hread
  cases hread
  rfl

/-- A name ends where its field has the first zero. -/
theorem takeWhile_field (command : Command) :
    command.field.bytes.takeWhile (· ≠ 0) = command.name :=
  (split_field _ (List.all_eq_true.mp command.graphic)).1

/-- What a field has before its first zero, as text, if it is UTF-8. -/
def fieldText? (field : Octets 12) : Option String :=
  String.fromUTF8? ⟨(field.bytes.takeWhile (· ≠ 0)).toArray⟩

theorem fieldText?_field (command : Command) : fieldText? command.field = some command.text := by
  have hbytes : (⟨command.name.toArray⟩ : ByteArray) = command.text.toByteArray := by
    rw [← utf8_text]
    rfl
  rw [fieldText?, takeWhile_field, hbytes]
  exact dif_pos command.text.isValidUTF8

/-! ### Both forms -/

/-- A field is read if it is the field of a command that is made from a text, and this text is what
the field has before its first zero. -/
theorem exists_ofField?_iff (field : Octets 12) : (∃ command, ofField? field = some command) ↔
    ∃ text command, ofText? text = some command ∧ command.field = field ∧
      Text.utf8 text = field.bytes.takeWhile (· ≠ 0) := by
  constructor
  · rintro ⟨command, h⟩
    have hfield := field_of_ofField? h
    refine ⟨command.text, command, command.ofText?_text, hfield, ?_⟩
    rw [utf8_text, ← hfield, takeWhile_field]
  · rintro ⟨text, command, -, rfl, -⟩
    exact ⟨command, command.ofField?_field⟩

theorem text_ne_empty {command : Command} (h : command.name ≠ []) : command.text ≠ "" := by
  intro hempty
  rw [← utf8_text, hempty] at h
  exact h rfl

/-- The text of a frame's command is a message's command if their fields are the same. -/
theorem command_eq_iff (frame : Frame) (text : String) : frame.command = text ↔
    ∃ command, ofText? text = some command ∧ frame.header.command.field = command.field := by
  constructor
  · rintro rfl
    exact ⟨frame.header.command, frame.header.command.ofText?_text, rfl⟩
  · rintro ⟨command, htext, hfield⟩
    rw [Frame.command, (eq_iff_field_eq ..).mpr hfield]
    exact text_of_ofText? htext

/-- **The two forms of a command define the same set.** A text of at most twelve bytes, all graphic,
has a field that is read as the same command; a field that is read is the field of its text; and
commands, whether made from texts or from fields, are the same if their texts are, and if their
fields are. -/
theorem forms_agree :
    (∀ text, ((∃ command, ofText? text = some command) ↔
        (Text.utf8 text).length ≤ 12 ∧ ∀ char ∈ text.toList, '!' ≤ char ∧ char ≤ '~') ∧
      ∀ command, ofText? text = some command →
        command.text = text ∧ ofField? command.field = some command) ∧
    (∀ field, ((∃ command, ofField? field = some command) ↔
        ∃ text command, ofText? text = some command ∧ command.field = field ∧
          Text.utf8 text = field.bytes.takeWhile (· ≠ 0)) ∧
      ∀ command, ofField? field = some command →
        command.field = field ∧ ofText? command.text = some command ∧
          fieldText? field = some command.text ∧
          (field.bytes.takeWhile (· ≠ 0) ≠ [] → command.text ≠ "")) ∧
    (∀ a b : Command, (a = b ↔ a.text = b.text) ∧ (a = b ↔ a.field = b.field)) ∧
    (∀ a b : Frame, a.command = b.command ↔ a.header.command.field = b.header.command.field) ∧
    ∀ (frame : Frame) (text : String), frame.command = text ↔
      ∃ command, ofText? text = some command ∧ frame.header.command.field = command.field := by
  refine ⟨fun text => ⟨?valid, ?back⟩, fun field => ⟨exists_ofField?_iff field, ?forth⟩,
    fun a b => ⟨⟨congrArg text, eq_of_text_eq⟩, eq_iff_field_eq a b⟩, ?frames, command_eq_iff⟩
  case valid =>
    rw [exists_ofText?_iff, isName_iff]
  case back =>
    intro command h
    exact ⟨text_of_ofText? h, ofField?_field command⟩
  case forth =>
    intro command h
    obtain rfl := field_of_ofField? h
    rw [takeWhile_field]
    exact ⟨rfl, ofText?_text command, fieldText?_field command, text_ne_empty⟩
  case frames =>
    intro a b
    rw [← eq_iff_field_eq]
    exact ⟨eq_of_text_eq, congrArg text⟩

/-- The empty text is a command too, whose field is all zeros. -/
example : (ofText? "").map field = some (.zero 12) := by decide

end Command
end Gossip
