import Gossip.Proofs.Frame.Acceptance
import Gossip.Proofs.Respects
import Gossip.Proofs.Stream.Storage

/-! The storage that a header can claim.

The one field of a frame whose length is up to the sender is the payload, and it is read as a byte
string, if the header is for the network and within the limits (`Frame.read_payload`). So the bounds
on the moments of reading a byte string are bounds on what a frame can make its reader hold, and on
the calls that the reader makes. -/
namespace Gossip
open Gossip.Stream (Moment Reader callsMade)

/-- What is left behind a field stays, if what is made of the field reads nothing. -/
theorem Decoder.reader_field_bind {α β : Type} (job : Stream.Read α) (next : α → Decoder β)
    (hnext : ∀ value inbound, (endState (next value inbound)).reader = inbound.reader)
    (inbound : Inbound) :
    (endState ((Decoder.field job >>= next) inbound)).reader = endState (job inbound.reader) := by
  simp only [bind, EStateM.bind, Decoder.field]
  cases job inbound.reader with
  | error error reader => rfl
  | ok value reader => exact hnext value _

namespace Frame

/-- Checking a payload reads nothing. -/
theorem reader_verify (header : Header) (payload : Bytes) (inbound : Inbound) :
    (endState (verify header payload inbound)).reader = inbound.reader := by
  rw [verify]
  split <;> rfl

/-- What is read of a frame is its header, and its payload if the header is not refused. -/
theorem read_payload (network : Network) (limits : Limits) (inbound : Inbound) :
    match Header.decode inbound with
    | .error error after => read network limits inbound = .error error after
    | .ok header after =>
      (endState (read network limits inbound)).reader =
        if header.magic = network.magic ∧ header.length.toNat ≤ limits.maxPayloadBytes then
          endState (Reader.byteString header.length.toNat after.reader)
        else after.reader := by
  cases hheader : Header.decode inbound with
  | error error after =>
    dsimp only
    rw [read_eq, Stream.bind_error hheader]
  | ok header after =>
    dsimp only
    rw [read_eq, Stream.bind_ok hheader]
    dsimp only
    by_cases hm : header.magic ≠ network.magic
    · rw [if_pos hm, if_neg fun h => hm h.1]
      rfl
    by_cases hl : limits.maxPayloadBytes < header.length.toNat
    · rw [if_neg hm, if_pos hl, if_neg fun h => Nat.not_le_of_lt hl h.2]
      rfl
    rw [if_neg hm, if_neg hl, if_pos ⟨Decidable.not_not.mp hm, Nat.le_of_not_lt hl⟩]
    exact Decoder.reader_field_bind _ _ (reader_verify header) after

/-- **A length that is claimed buys no more than a chunk of storage.** While a byte string is read,
whatever length is asked for and whatever the source does, the buffer is never longer than that, nor
more than a chunk ahead of what has been received, which is what has been taken from the source. No
call asks for more than a chunk or more than is missing, and the size of the next buffer is no
overflow. The calls that reading a frame makes are those of reading such a byte string, or there are
none; so what a frame makes its reader hold is no more than a chunk beyond what is delivered. -/
theorem storage_follows_arrival :
    (∀ (length : UInt64) (reader : Reader),
      (∀ calls moment, Moment.Leads length.toNat (.start reader.source) calls moment →
        moment.buffer.length ≤ length.toNat ∧
        moment.received ≤ moment.buffer.length ∧
        moment.buffer.length ≤ moment.received + 65536 ∧
        reader.source.bytes = moment.buffer.take moment.received ++ moment.source.bytes ∧
        moment.buffer.length + min (length.toNat - moment.buffer.length) 65536 < UInt64.size ∧
        ∀ call ∈ calls, call.asked ≤ 65536 ∧ call.asked ≤ length.toNat - call.received) ∧
      ∃ last, Moment.Leads length.toNat (.start reader.source)
          (callsMade (Reader.tracedByteString length.toNat) reader) last ∧
        last.IsLast length.toNat ∧
        Reader.byteString length.toNat reader = last.outcome length.toNat reader.bytesRead) ∧
    ∀ (network : Network) (limits : Limits) (inbound : Inbound),
      let made := callsMade (tracedRead network limits) inbound
      match Header.decode inbound with
      | .error error after => read network limits inbound = .error error after ∧ made = []
      | .ok header after =>
        let length := header.length.toNat
        let delivered := min length after.reader.arriving.length
        if header.magic = network.magic ∧ length ≤ limits.maxPayloadBytes then
          (endState (read network limits inbound)).reader =
            endState (Reader.byteString length after.reader) ∧
          (∃ last, Moment.Leads length (.start after.reader.source) made last ∧
            last.IsLast length ∧
            Reader.byteString length after.reader = last.outcome length after.reader.bytesRead) ∧
          (∀ call ∈ made, call.asked ≤ 65536 ∧ call.asked ≤ length - call.received ∧
            call.received ≤ delivered ∧ call.storage ≤ delivered + 65536) ∧
          ∀ calls moment, Moment.Leads length (.start after.reader.source) calls moment →
            moment.buffer.length ≤ delivered + 65536
        else (endState (read network limits inbound)).reader = after.reader ∧ made = [] := by
  constructor
  · intro length reader
    refine ⟨fun calls moment hleads => ?_, Reader.byteString_leads length.toNat reader⟩
    obtain ⟨hb, hmodest⟩ := hleads.bounded
    have hsize : length.toNat < UInt64.size := length.toNat_lt
    have hwithin := hb.within
    exact ⟨hb.within, hb.received, hb.ahead, hb.bytes, by omega,
      fun call hcall => ⟨(hmodest call hcall).chunk, (hmodest call hcall).missing⟩⟩
  · intro network limits inbound
    have hread := read_payload network limits inbound
    have hmade := callsMade_read network limits inbound
    cases hheader : Header.decode inbound with
    | error error after =>
      rw [hheader] at hread hmade
      exact ⟨hread, hmade⟩
    | ok header after =>
      rw [hheader] at hread hmade
      dsimp only at hread hmade ⊢
      by_cases haccepted : header.magic = network.magic ∧
          header.length.toNat ≤ limits.maxPayloadBytes
      · rw [if_pos haccepted] at hread hmade ⊢
        rw [hmade]
        have hlast := Reader.byteString_leads header.length.toNat after.reader
        refine ⟨hread, hlast, fun call hcall => ?_, fun calls moment hleads => ?_⟩
        · obtain ⟨last, hleads, -⟩ := hlast
          have hmodest := hleads.bounded.2 call hcall
          exact ⟨hmodest.chunk, hmodest.missing, hmodest.received,
            Nat.le_trans hmodest.ahead (Nat.add_le_add_right hmodest.received _)⟩
        · have hb := hleads.bounded.1
          have hdelivered : moment.received ≤
              min header.length.toNat after.reader.arriving.length :=
            Nat.le_min.mpr ⟨Nat.le_trans hb.received hb.within, hb.received_le⟩
          exact Nat.le_trans hb.ahead (Nat.add_le_add_right hdelivered _)
      · rw [if_neg haccepted] at hread hmade ⊢
        exact ⟨hread, hmade⟩

/-- A header claims all that a header can, within limits that allow it, and three bytes follow. The
reader reports how many were missing, and it never held more than a chunk beyond the three. -/
theorem storage_follows_arrival_short :
    let ping : Command := ⟨[112, 105, 110, 103], by decide, by decide⟩
    let header : Header := ⟨Network.mainnet.magic, ping, 4294967295, ⟨[1, 2, 3, 4], rfl⟩⟩
    let behind : Stream.Source := [.data [1, 2], .fault ⟨.interrupted, "again"⟩, .data [3]]
    let inbound : Inbound := ⟨⟨.data header.encode :: behind, 0⟩, []⟩
    read .mainnet ⟨4294967295⟩ inbound = .error (.truncated 4294967295 3) ⟨⟨[], 27⟩, []⟩ ∧
      (∀ call ∈ callsMade (tracedRead .mainnet ⟨4294967295⟩) inbound, call.storage ≤ 3 + 65536) ∧
      ∀ calls moment, Moment.Leads 4294967295 (.start behind) calls moment →
        moment.buffer.length ≤ 3 + 65536 := by
  intro ping header behind inbound
  have hahead : Inbound.Ahead inbound 0 (header.encode ++ [1, 2, 3]) := Inbound.ahead_start inbound
  have hdecode : Header.decode inbound = .ok header ⟨⟨behind, 24⟩, []⟩ := Header.decode_front hahead
  have hread : read .mainnet ⟨4294967295⟩ inbound =
      .error (.truncated 4294967295 3) ⟨⟨[], 27⟩, []⟩ :=
    read_payload_cut hahead rfl (Nat.le_refl _) (by decide)
  have hframe := storage_follows_arrival.2 .mainnet ⟨4294967295⟩ inbound
  rw [hdecode] at hframe
  dsimp only at hframe
  rw [if_pos ⟨rfl, Nat.le_refl _⟩] at hframe
  obtain ⟨-, -, hcalls, hmoments⟩ := hframe
  exact ⟨hread, fun call hcall => (hcalls call hcall).2.2.2, hmoments⟩

end Frame
end Gossip
