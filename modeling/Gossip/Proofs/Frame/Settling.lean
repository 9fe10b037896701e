import Gossip.Proofs.Frame.Header
import Gossip.Proofs.Frame.Delivery

/-! Decoders, and why a stream stops.

A decoder *settles* on a byte string if one of two things is true of every stream on which the byte
string arrives: it has its result from the byte string, before the stop is met, or it needs more,
takes all there is, and reports the stop. All fields do, and what is made of decoders that settle
settles (`Settles.bind`).

So two streams on which the same arrives, of which one ends and the other breaks off, are told apart
by nothing but the error of a field that was cut short (`Severed`). -/
namespace Gossip
open Inbound (Ahead)
open Gossip.Stream (Source)

/-- The same with further records. -/
def Inbound.recording (inbound : Inbound) (records : Log) : Inbound :=
  {inbound with log := inbound.log ++ records}

namespace Decoder
variable {α β : Type}

/-! ### Settling -/

/-- What a decoder makes of the bytes that arrive. -/
inductive SettlesOn (decoder : Decoder α) (bytes : Bytes) : Prop where
  /-- The result is there before the stop is met, and it is not that bytes are missing. -/
  | within (result : Except DecodeError α) (consumed : Nat) (records : Log) :
    consumed ≤ bytes.length → (∀ need got, result ≠ .error (.truncated need got)) →
    (∀ start : Inbound, start.arriving = bytes →
      decoder start = outcome result ((start.skip consumed).recording records)) →
    SettlesOn decoder bytes
  /-- All the bytes are taken, more are needed, and the stop is reported. -/
  | short (need got : Nat) (records : Log) :
    (∀ start : Inbound, start.arriving = bytes →
      decoder start = .error (.cut need got start.ending) (start.drain.recording records)) →
    SettlesOn decoder bytes

/-- The decoder settles on every byte string. -/
def Settles (decoder : Decoder α) : Prop := ∀ bytes, decoder.SettlesOn bytes

/-- A result that is there at once. -/
theorem settles_of_eq {decoder : Decoder α} (result : Except DecodeError α) (records : Log)
    (hresult : ∀ need got, result ≠ .error (.truncated need got))
    (h : ∀ start : Inbound, decoder start = outcome result (start.recording records)) :
    decoder.Settles := by
  intro bytes
  refine .within result 0 records (Nat.zero_le _) hresult fun start _ => ?_
  rw [Inbound.skip_zero]
  exact h start

theorem settles_pure (value : α) : Settles (pure value) :=
  settles_of_eq (.ok value) [] (by simp) fun start => by
    simp [Inbound.recording, outcome, pure, EStateM.pure]

theorem settles_throw {error : DecodeError} (h : ∀ need got, error ≠ .truncated need got) :
    Settles (throw error : Decoder α) :=
  settles_of_eq (.error error) [] (by simpa using h) fun start => by
    rw [Inbound.recording, List.append_nil]
    rfl

theorem settles_record (entry : Log.Record) : Settles (record entry) :=
  settles_of_eq (.ok ()) [entry] (by simp) fun _ => rfl

/-- What is made of decoders that settle settles: the second has to do with what the first
leaves. -/
theorem Settles.bind {m : Decoder α} {f : α → Decoder β} (hm : m.Settles)
    (hf : ∀ value, (f value).Settles) : (m >>= f).Settles := by
  intro bytes
  cases hm bytes with
  | short need got records hshort =>
    exact .short need got records fun start h => Stream.bind_error (hshort start h)
  | within result consumed records hl hresult hrun =>
    cases result with
    | error error =>
      refine .within (.error error) consumed records hl ?_ fun start h =>
        Stream.bind_error (hrun start h)
      intro need got h
      cases h
      exact hresult _ _ rfl
    | ok value =>
      have hahead (start : Inbound) (h : start.arriving = bytes) :
          Ahead start consumed (bytes.drop consumed) :=
        ⟨bytes.take consumed, by simp [h], List.length_take_of_le hl⟩
      cases hf value (bytes.drop consumed) with
      | within result more later hl' hresult' hrun' =>
        rw [List.length_drop] at hl'
        refine .within result (consumed + more) (records ++ later) (by omega) hresult' ?_
        intro start h
        have hstart : ((start.skip consumed).recording records).arriving = bytes.drop consumed :=
          (hahead start h).arriving_skip
        rw [Stream.bind_ok (hrun start h), hrun' _ hstart]
        simp [Inbound.recording, Inbound.skip]
      | short need got later hshort =>
        refine .short need got (records ++ later) fun start h => ?_
        have hstart : ((start.skip consumed).recording records).arriving = bytes.drop consumed :=
          (hahead start h).arriving_skip
        have hending : ((start.skip consumed).recording records).ending = start.ending :=
          (hahead start h).ending_skip
        rw [Stream.bind_ok (hrun start h), hshort _ hstart, hending]
        simp [Inbound.recording, Inbound.skip, Inbound.drain, (hahead start h).drain_skip]

theorem settles_reject (origin : Log.Origin) (warning : String) {error : DecodeError}
    (h : ∀ need got, error ≠ .truncated need got) :
    Settles (reject (α := α) origin warning error) :=
  (settles_record _).bind fun _ => settles_throw h

/-! ### Fields -/

/-- A field of known width. -/
theorem settles_of_front {decoder : Decoder α} (width : Nat)
    (front : ∀ bytes : Bytes, width ≤ bytes.length → ∃ value, ∀ start : Inbound,
      Ahead start 0 bytes → decoder (start.skip 0) = .ok value (start.skip (0 + width)))
    (short : ∀ bytes : Bytes, bytes.length < width → ∃ need got, ∀ start : Inbound,
      Ahead start 0 bytes →
        decoder (start.skip 0) = .error (.cut need got start.ending) start.drain) :
    decoder.Settles := by
  intro bytes
  by_cases hl : bytes.length < width
  · obtain ⟨need, got, hshort⟩ := short bytes hl
    refine .short need got [] fun start h => ?_
    have hrun := hshort start (by rw [← h]; exact start.ahead_start)
    simpa [Inbound.recording] using hrun
  · have hl := Nat.le_of_not_lt hl
    obtain ⟨value, hfront⟩ := front bytes hl
    refine .within (.ok value) width [] hl (by simp) fun start h => ?_
    have hrun := hfront start (by rw [← h]; exact start.ahead_start)
    simpa [Inbound.recording, outcome] using hrun

theorem settles_u32 : Settles (field Stream.Reader.u32) := by
  apply settles_of_front 4
  · intro bytes hl
    obtain ⟨n, rest, rfl⟩ := LittleEndian.exists_u32_front hl
    exact ⟨n, fun _ h => u32_front h⟩
  · intro bytes hl
    exact ⟨4, bytes.length, fun _ h => u32_short h hl⟩

theorem settles_octets (width : Nat) : Settles (field (Stream.Reader.octets width)) := by
  apply settles_of_front width
  · intro bytes hl
    obtain ⟨octets, rest, rfl⟩ := Octets.exists_front hl
    exact ⟨octets, fun _ h => octets_front h⟩
  · intro bytes hl
    exact ⟨width, bytes.length, fun _ h => octets_short h hl⟩

theorem settles_byteString (length : Nat) : Settles (field (Stream.Reader.byteString length)) := by
  apply settles_of_front length
  · intro bytes hl
    obtain ⟨front, rest, rfl⟩ := Octets.exists_front hl
    exact ⟨front.bytes, fun _ h => byteString_front h front.length_eq⟩
  · intro bytes hl
    exact ⟨length, bytes.length, fun _ h => byteString_short h hl⟩

theorem settles_compactSize : Settles (field Stream.Reader.compactSize) := by
  intro bytes
  have hahead (start : Inbound) (h : start.arriving = bytes) : Ahead start 0 bytes := by
    rw [← h]
    exact start.ahead_start
  cases CompactSize.shape bytes with
  | none =>
    refine .short 1 0 [] fun start h => ?_
    simpa [Inbound.recording] using compactSize_none (hahead start h)
  | @cut first rest hl =>
    refine .short (CompactSize.tailWidth first) rest.length [] fun start h => ?_
    simpa [Inbound.recording] using compactSize_cut (hahead start h) hl
  | wide first tail rest hl hs =>
    refine .within (.error (.malformed (.nonCanonicalSize (CompactSize.valueOf first tail)
      (1 + tail.length)))) (1 + tail.length) [] ?_ (by simp) fun start h => ?_
    · rw [List.length_cons, List.length_append]
      omega
    · simpa [Inbound.recording, outcome] using compactSize_wide (hahead start h) hl hs
  | whole value rest =>
    refine .within (.ok value) (CompactSize.size value) [] ?_ (by simp) fun start h => ?_
    · simp [CompactSize.length_encode]
    · simpa [Inbound.recording, outcome] using compactSize_front (hahead start h)

/-- The records made before have no say in what a decoder that settles comes to. -/
theorem SettlesOn.exists_answer {decoder : Decoder α} {bytes : Bytes}
    (h : decoder.SettlesOn bytes) :
    ∃ result, ∀ log, answer (decoder ⟨.ofBytes bytes, log⟩) = result := by
  have harriving (log : Log) : Inbound.arriving ⟨.ofBytes bytes, log⟩ = bytes :=
    (Source.stretch_ofBytes bytes).1
  cases h with
  | within result consumed records _ _ hrun =>
    refine ⟨result, fun log => ?_⟩
    rw [hrun _ (harriving log)]
    cases result <;> rfl
  | short need got records hshort =>
    refine ⟨.error (.cut need got .ended), fun log => ?_⟩
    rw [hshort _ (harriving log), ending_ofBytes]
    rfl

end Decoder

/-! ### Headers and frames -/

theorem Header.settles_decode : decode.Settles := by
  refine Decoder.settles_u32.bind fun magic => ?_
  refine (Decoder.settles_octets 12).bind fun field => ?_
  cases Command.ofField? field with
  | none => exact Decoder.settles_throw (by simp)
  | some command =>
    refine Decoder.settles_u32.bind fun length => ?_
    refine (Decoder.settles_octets 4).bind fun checksum => ?_
    exact Decoder.settles_pure _

theorem Frame.settles_read (network : Network) (limits : Limits) :
    (read network limits).Settles := by
  rw [read_eq]
  refine Header.settles_decode.bind fun header => ?_
  dsimp only
  split
  · exact Decoder.settles_reject _ _ (by simp)
  split
  · exact Decoder.settles_reject _ _ (by simp)
  refine (Decoder.settles_byteString _).bind fun payload => ?_
  rw [verify]
  split
  · exact Decoder.settles_reject _ _ (by simp)
  exact (Decoder.settles_record _).bind fun _ => Decoder.settles_pure _

/-! ### Streams that end, and streams that break off -/

/-- Two streams are as far as each other: they have given as many bytes, have the same records, and
the second still has `rest` behind what the first has. -/
structure Inbound.Abreast (rest : Source) (a b : Inbound) : Prop where
  bytesRead : b.reader.bytesRead = a.reader.bytesRead
  unread : b.reader.source.bytes = a.reader.source.bytes ++ rest.bytes
  log : b.log = a.log

/-- The results on two streams that are alike but for the second one breaking off with a fault where
the first one ends. A value, or an error that is not for want of bytes, is the same. Where bytes are
wanting the fault is reported as it is, unless it says itself that the stream has ended. -/
inductive Severed {σ α : Type} (fault : Stream.Fault) (R : σ → σ → Prop) :
    EStateM.Result DecodeError σ α → EStateM.Result DecodeError σ α → Prop where
  | ok {value : α} {s t : σ} : R s t → Severed fault R (.ok value s) (.ok value t)
  | error {error : DecodeError} {s t : σ} : (∀ need got, error ≠ .truncated need got) → R s t →
    Severed fault R (.error error s) (.error error t)
  | truncated {need got : Nat} {s t : σ} : R s t →
    Severed fault R (.error (.truncated need got) s)
      (.error (if fault.kind = .unexpectedEof then .truncated need got else .transport fault) t)

section
variable {ended broken : Source} {bytes : Bytes} {fault : Stream.Fault}

/-- A source that breaks off has the bytes that were delivered, then the fault, or the end of the
stream if that is what the fault says, and then whatever comes after. -/
theorem Stream.Source.Delivers.break_off (h : broken.Delivers bytes)
    (hfault : fault.kind ≠ .interrupted) (rest : Source) :
    (broken ++ .fault fault :: rest).arriving = bytes ∧
      (broken ++ .fault fault :: rest).ending =
        (if fault.kind = .unexpectedEof then .ended else .failed fault) ∧
      (broken ++ .fault fault :: rest).resumed = rest := by
  induction h with
  | nil => simp [Source.arriving, Source.ending, Source.resumed, hfault]
  | interrupted hk _ ih => simpa [Source.arriving, Source.ending, Source.resumed, hk] using ih
  | piece hp _ ih => simpa [Source.arriving, Source.ending, Source.resumed, hp] using ih

/-- The error of a field that is cut short where the stream breaks off. -/
theorem DecodeError.cut_break_off (need got : Nat) :
    cut need got (if fault.kind = .unexpectedEof then .ended else .failed fault) =
      if fault.kind = .unexpectedEof then .truncated need got else .transport fault := by
  split <;> rfl

namespace Inbound
variable (hended : ended.Delivers bytes) (hbroken : broken.Delivers bytes)
  (hfault : fault.kind ≠ .interrupted) (rest : Source) (before : Nat) (log records : Log)
include hended hbroken hfault

theorem abreast_skip {consumed : Nat} (hl : consumed ≤ bytes.length) :
    Abreast rest ((skip consumed ⟨⟨ended, before⟩, log⟩).recording records)
      ((skip consumed ⟨⟨broken ++ .fault fault :: rest, before⟩, log⟩).recording records) := by
  obtain ⟨harr, -, hres⟩ := hended.stretch
  obtain ⟨harr', -, hres'⟩ := hbroken.break_off hfault rest
  refine ⟨rfl, ?_, rfl⟩
  show (Source.skip consumed _).bytes = (Source.skip consumed _).bytes ++ _
  rw [Source.bytes_skip _ _ (by rw [harr']; exact hl),
    Source.bytes_skip _ _ (by rw [harr]; exact hl), Source.bytes_eq ended, Source.bytes_eq (_ ++ _),
    harr, hres, harr', hres', Source.bytes, List.append_nil, List.drop_append_of_le_length hl]

theorem abreast_drain :
    Abreast rest ((drain ⟨⟨ended, before⟩, log⟩).recording records)
      ((drain ⟨⟨broken ++ .fault fault :: rest, before⟩, log⟩).recording records) := by
  obtain ⟨harr, -, hres⟩ := hended.stretch
  obtain ⟨harr', -, hres'⟩ := hbroken.break_off hfault rest
  refine ⟨?_, ?_, rfl⟩
  · show before + (Source.arriving _).length = before + (Source.arriving _).length
    rw [harr, harr']
  · show (Source.resumed _).bytes = (Source.resumed _).bytes ++ _
    rw [hres, hres']
    rfl

end Inbound

/-- A decoder that settles hides no fault of the transport, and takes none for anything else. -/
theorem Decoder.SettlesOn.severed {α : Type} {decoder : Decoder α} (h : decoder.SettlesOn bytes)
    (hended : ended.Delivers bytes) (hbroken : broken.Delivers bytes)
    (hfault : fault.kind ≠ .interrupted) (rest : Source) (before : Nat) (log : Log) :
    Severed fault (Inbound.Abreast rest) (decoder ⟨⟨ended, before⟩, log⟩)
      (decoder ⟨⟨broken ++ .fault fault :: rest, before⟩, log⟩) := by
  obtain ⟨harr, hend, -⟩ := hended.stretch
  obtain ⟨harr', hend', -⟩ := hbroken.break_off hfault rest
  cases h with
  | within result consumed records hl hresult hrun =>
    have habreast := Inbound.abreast_skip hended hbroken hfault rest before log records hl
    rw [hrun ⟨⟨ended, before⟩, log⟩ harr, hrun ⟨⟨_, before⟩, log⟩ harr']
    cases result with
    | ok value => exact .ok habreast
    | error error => exact .error (by simpa using hresult) habreast
  | short need got records hshort =>
    have habreast := Inbound.abreast_drain hended hbroken hfault rest before log records
    have hending : Inbound.ending ⟨⟨ended, before⟩, log⟩ = .ended := hend
    have hending' : Inbound.ending ⟨⟨broken ++ .fault fault :: rest, before⟩, log⟩ = _ := hend'
    rw [hshort ⟨⟨ended, before⟩, log⟩ harr, hshort ⟨⟨_, before⟩, log⟩ harr', hending, hending',
      DecodeError.cut_break_off]
    exact .truncated habreast

end
end Gossip
