import Gossip.Proofs.Frame.Acceptance

/-! What decoders leave in the log.

Records are only ever added, and an error leaves what its kind calls for: one warning if something
that was read whole is turned down (`DecodeError.isWarned`), and nothing if it is not there, or not
well formed, or for somebody else. A decoder `Records` what is said of each of its values if it adds
just that to the log on success and otherwise what the error leaves. Most decoders record nothing of
their values, and what is made of such decoders is one again (`Records.bind`). -/
namespace Gossip

/-- Is there a warning about the error? -/
def DecodeError.isWarned : DecodeError → Bool
  | .wrongMagic .. | .overLimit .. | .checksumMismatch .. | .tooManyItems .. => true
  | _ => false

/-- The records that an error may leave. -/
inductive DecodeError.Leaves : DecodeError → Log → Prop where
  | nothing {error : DecodeError} : error.isWarned = false → Leaves error []
  | warning {error : DecodeError} (origin : Log.Origin) (text : String) : error.isWarned = true →
    Leaves error [⟨.warn, origin, text⟩]

theorem DecodeError.isWarned_ofStream (cause : Stream.Error) :
    (ofStream cause).isWarned = false := by
  cases cause <;> rfl

variable {α β σ : Type}

/-- A result whose log has, behind what was there before, the records of the value or what the error
leaves. -/
inductive Recorded (log : σ → Log) (of : α → Log) (before : Log) :
    EStateM.Result DecodeError σ α → Prop where
  | ok {value : α} {after : σ} : log after = before ++ of value →
    Recorded log of before (.ok value after)
  | error {error : DecodeError} {after : σ} {records : Log} : error.Leaves records →
    log after = before ++ records → Recorded log of before (.error error after)

namespace Decoder

/-- From wherever it starts, the decoder leaves these records of its values. -/
def Records (decoder : Decoder α) (of : α → Log) : Prop :=
  ∀ inbound, Recorded Inbound.log of inbound.log (decoder inbound)

theorem records_pure (value : α) : Records (pure value) fun _ => [] :=
  fun _ => .ok (List.append_nil _).symm

theorem records_throw {error : DecodeError} {of : α → Log} (h : error.isWarned = false) :
    Records (throw error) of :=
  fun _ => .error (.nothing h) (List.append_nil _).symm

/-- A field leaves no record, whether it is read or not. -/
theorem records_field (read : Stream.Read α) : Records (field read) fun _ => [] := by
  rintro ⟨reader, log⟩
  simp only [field]
  cases read reader with
  | ok value reader => exact .ok (List.append_nil _).symm
  | error cause reader =>
    exact .error (.nothing (DecodeError.isWarned_ofStream cause)) (List.append_nil _).symm

/-- A rejection leaves its warning. -/
theorem records_reject (origin : Log.Origin) (warning : String) {error : DecodeError}
    {of : α → Log} (h : error.isWarned = true) : Records (reject origin warning error) of :=
  fun _ => .error (.warning origin warning h) rfl

/-- Behind a decoder that leaves no record of its values, the records are those of the next one. -/
theorem Records.bind {m : Decoder α} {f : α → Decoder β} {of : β → Log}
    (hm : m.Records fun _ => []) (hf : ∀ value, (f value).Records of) : (m >>= f).Records of := by
  intro inbound
  have hfirst := hm inbound
  cases hrun : m inbound with
  | ok value after =>
    rw [hrun] at hfirst
    rw [Stream.bind_ok hrun]
    obtain ⟨hlog⟩ | _ := hfirst
    have hsecond := hf value after
    rwa [hlog, List.append_nil] at hsecond
  | error error after =>
    rw [hrun] at hfirst
    rw [Stream.bind_error hrun]
    obtain _ | ⟨hleaves, hlog⟩ := hfirst
    exact .error hleaves hlog

end Decoder

/-! ### Headers and frames -/

theorem Header.records_decode : decode.Records fun _ => [] := by
  refine (Decoder.records_field _).bind fun magic => ?_
  refine (Decoder.records_field _).bind fun field => ?_
  cases Command.ofField? field with
  | none => exact Decoder.records_throw rfl
  | some command =>
    refine (Decoder.records_field _).bind fun length => ?_
    refine (Decoder.records_field _).bind fun checksum => ?_
    exact Decoder.records_pure _

/-- A frame that is read leaves one record. -/
theorem Frame.records_read (network : Network) (limits : Limits) :
    (read network limits).Records fun frame => [frame.readRecord] := by
  rw [read_eq]
  refine Header.records_decode.bind fun header => ?_
  dsimp only
  split
  · exact Decoder.records_reject _ _ rfl
  split
  · exact Decoder.records_reject _ _ rfl
  refine (Decoder.records_field _).bind fun payload => ?_
  rw [verify]
  split
  · exact Decoder.records_reject _ _ rfl
  exact fun _ => .ok rfl

end Gossip
