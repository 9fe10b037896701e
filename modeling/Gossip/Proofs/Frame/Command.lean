import Gossip.Frame.Command
import Gossip.Proofs.Text.Utf8

/-! Commands, their header fields and their texts.

A header field holds a command exactly if it is a graphic name followed by zeros (`IsField`). There
is one field for each command and one command for each field. A text is a command's exactly if it is
at most twelve bytes of graphic ASCII (`IsName`), and two commands with the same text are the
same. -/
namespace Gossip.Command

/-! ### Header fields -/

/-- Graphic ASCII, then nothing but zeros. -/
def IsField (bytes : Bytes) : Prop :=
  ∃ name zeros, bytes = name ++ List.replicate zeros 0 ∧ ∀ byte ∈ name, isGraphic byte = true

theorem ne_zero_of_isGraphic {byte : UInt8} (h : isGraphic byte = true) : byte ≠ 0 := by
  rintro rfl
  exact absurd h (by decide)

/-- A name ends at the first zero of its field. -/
theorem split_field {name : Bytes} (zeros : Nat) (h : ∀ byte ∈ name, isGraphic byte = true) :
    (name ++ List.replicate zeros 0).takeWhile (· ≠ 0) = name ∧
      (name ++ List.replicate zeros 0).dropWhile (· ≠ 0) = List.replicate zeros 0 := by
  have hne : ∀ byte ∈ name, decide (byte ≠ 0) = true := fun byte hb => by
    simpa using ne_zero_of_isGraphic (h byte hb)
  constructor
  · rw [List.takeWhile_append_of_pos hne]
    cases zeros <;> simp [List.replicate_succ]
  · rw [List.dropWhile_append_of_pos hne]
    cases zeros <;> simp [List.replicate_succ]

theorem isField_iff (bytes : Bytes) :
    IsField bytes ↔ (bytes.takeWhile (· ≠ 0)).all isGraphic = true ∧
      (bytes.dropWhile (· ≠ 0)).all (· = 0) = true := by
  constructor
  · rintro ⟨name, zeros, rfl, hname⟩
    obtain ⟨htake, hdrop⟩ := split_field zeros hname
    rw [htake, hdrop]
    exact ⟨List.all_eq_true.mpr hname, by simp⟩
  · rintro ⟨hname, hpad⟩
    refine ⟨_, (bytes.dropWhile (· ≠ 0)).length, ?_, List.all_eq_true.mp hname⟩
    have hzeros : ∀ byte ∈ bytes.dropWhile (· ≠ 0), byte = 0 := by simpa using hpad
    rw [← List.eq_replicate_of_mem hzeros, List.takeWhile_append_dropWhile]

instance : DecidablePred IsField := fun bytes => decidable_of_iff _ (isField_iff bytes).symm

/-- Reading a command's field gives the command. -/
theorem ofField?_field (command : Command) : ofField? command.field = some command := by
  obtain ⟨htake, hdrop⟩ := split_field (12 - command.name.length)
    (List.all_eq_true.mp command.graphic)
  have hbytes : command.field.bytes =
      command.name ++ List.replicate (12 - command.name.length) 0 := rfl
  unfold ofField?
  simp only [hbytes, htake, hdrop, command.graphic]
  simp

/-- A field that holds a command holds one that has this field. -/
theorem exists_field {field : Octets 12} (h : IsField field.bytes) :
    ∃ command : Command, command.field = field := by
  obtain ⟨name, zeros, hbytes, hname⟩ := h
  have hl : name.length + zeros = 12 := by
    have := field.length_eq
    rw [hbytes] at this
    simpa using this
  refine ⟨⟨name, by omega, List.all_eq_true.mpr hname⟩, ?_⟩
  ext1
  show name ++ List.replicate (12 - name.length) 0 = field.bytes
  rw [hbytes, show 12 - name.length = zeros by omega]

theorem isField_field (command : Command) : IsField command.field.bytes :=
  ⟨command.name, 12 - command.name.length, rfl, List.all_eq_true.mp command.graphic⟩

theorem ofField?_eq_none {field : Octets 12} (h : ¬ IsField field.bytes) :
    ofField? field = none := by
  rw [isField_iff] at h
  simp only [ofField?, h, dite_false]

/-! ### Names -/

theorem byte_eq_of_char_eq {a b : UInt8} (h : Char.ofNat a.toNat = Char.ofNat b.toNat) : a = b := by
  apply UInt8.toNat_inj.mp
  rw [← Text.toNat_ofNat_byte a, ← Text.toNat_ofNat_byte b, h]

/-- Commands are told apart by their texts. -/
theorem eq_of_text_eq {a b : Command} (h : a.text = b.text) : a = b := by
  have hmap : a.name.map (fun byte => Char.ofNat byte.toNat) =
      b.name.map (fun byte => Char.ofNat byte.toNat) := by
    simpa only [text, String.ofList_inj] using h
  have hname : a.name = b.name :=
    List.map_inj_right (fun _ _ => byte_eq_of_char_eq) |>.mp hmap
  cases a
  cases b
  simpa using hname

/-- At most twelve bytes of graphic ASCII. -/
def IsName (text : String) : Prop :=
  (Text.utf8 text).length ≤ 12 ∧ (Text.utf8 text).all isGraphic = true

instance : DecidablePred IsName := fun text =>
  inferInstanceAs (Decidable (_ ∧ (Text.utf8 text).all isGraphic = true))

theorem ofText?_eq_none {text : String} (h : ¬ IsName text) : ofText? text = none :=
  dif_neg h

/-- A graphic byte is a character of its own in UTF-8. -/
theorem utf8EncodeChar_graphic {byte : UInt8} (h : isGraphic byte = true) :
    String.utf8EncodeChar (Char.ofNat byte.toNat) = [byte] := by
  have hle : byte ≤ 0x7E := by
    simp only [isGraphic, Bool.and_eq_true, decide_eq_true_eq] at h
    exact h.2
  have hnat : byte.toNat ≤ 0x7E := UInt8.le_iff_toNat_le.mp hle
  have hascii : (Char.ofNat byte.toNat).toNat ≤ 0x7F := by
    rw [Text.toNat_ofNat_byte]
    omega
  rw [Text.utf8EncodeChar_ascii hascii, Text.toNat_ofNat_byte, UInt8.ofNat_toNat]

theorem flatMap_utf8EncodeChar {name : Bytes} (h : ∀ byte ∈ name, isGraphic byte = true) :
    (name.map fun byte => Char.ofNat byte.toNat).flatMap String.utf8EncodeChar = name := by
  induction name with
  | nil => rfl
  | cons byte rest ih =>
    rw [List.map_cons, List.flatMap_cons, utf8EncodeChar_graphic (h byte (List.mem_cons_self ..)),
      ih fun other hother => h other (List.mem_cons_of_mem byte hother)]
    rfl

/-- The text of a command is its name. -/
theorem utf8_text (command : Command) : Text.utf8 command.text = command.name := by
  rw [text, Text.utf8_ofList, flatMap_utf8EncodeChar (List.all_eq_true.mp command.graphic)]

/-- A text that may be a name is the text of the command that has it as its name. -/
theorem exists_ofText? {text : String} (h : IsName text) :
    ∃ command, ofText? text = some command ∧ command.text = text :=
  ⟨_, dif_pos h, Text.eq_of_utf8_eq (utf8_text ⟨Text.utf8 text, h.1, h.2⟩)⟩

end Gossip.Command
