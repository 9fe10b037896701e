import Gossip.Proofs.Respects
import Gossip.Proofs.Stream.Reading

/-! Reading from sources that are alike.

Two sources are alike if they have the same stretch, the same stop and the same rest, in whatever
pieces they come; two readers are alike if their sources are and their counts differ by a known
number. Every read respects the likeness of readers, since it sees nothing of a source but what
arrives and why it stops. -/
namespace Gossip.Stream

/-! ### Sources -/

/-- The same bytes arrive, then the same stop is met, and the same comes after it. -/
structure Source.Alike (a b : Source) : Prop where
  arriving : a.arriving = b.arriving
  ending : a.ending = b.ending
  resumed : a.resumed = b.resumed

namespace Source

theorem Alike.refl (source : Source) : source.Alike source := ⟨rfl, rfl, rfl⟩

theorem Alike.bytes {a b : Source} (h : a.Alike b) : a.bytes = b.bytes := by
  rw [bytes_eq a, bytes_eq b, h.arriving, h.resumed]

theorem Alike.skip {a b : Source} (h : a.Alike b) {count : Nat} (hc : count ≤ a.arriving.length) :
    (a.skip count).Alike (b.skip count) := by
  obtain ⟨harrA, hendA, hresA⟩ := skip_stretch count a hc
  obtain ⟨harrB, hendB, hresB⟩ := skip_stretch count b (by rw [← h.arriving]; exact hc)
  refine ⟨?_, ?_, ?_⟩
  · rw [harrA, harrB, h.arriving]
  · rw [hendA, hendB, h.ending]
  · rw [hresA, hresB, h.resumed]

end Source

/-! ### Readers -/

/-- The sources are alike, and the first reader has counted `ahead` bytes more. -/
structure Reader.Alike (ahead : Nat) (a b : Reader) : Prop where
  source : a.source.Alike b.source
  bytesRead : a.bytesRead = b.bytesRead + ahead

namespace Reader
variable {ahead : Nat} {a b : Reader}

theorem Alike.arriving (h : Alike ahead a b) : a.arriving = b.arriving := h.source.arriving

theorem Alike.ending (h : Alike ahead a b) : a.ending = b.ending := h.source.ending

theorem Alike.skip (h : Alike ahead a b) {count : Nat} (hc : count ≤ a.arriving.length) :
    Alike ahead (a.skip count) (b.skip count) := by
  refine ⟨h.source.skip hc, ?_⟩
  rw [bytesRead_skip, bytesRead_skip, h.bytesRead]
  omega

theorem Alike.drain (h : Alike ahead a b) : Alike ahead a.drain b.drain := by
  refine ⟨?_, ?_⟩
  · simp only [Reader.drain, h.source.resumed]
    exact .refl _
  · simp only [Reader.drain, h.bytesRead, h.arriving]
    omega

/-- A read of a number of bytes respects likeness if it moves past them where they arrive, and
meets the stop where they do not. -/
theorem respects_of_front {α : Type} {read : Read α} {width : Nat}
    (front : ∀ bytes : Bytes, bytes.length = width → ∃ value, ∀ (reader : Reader) (rest : Bytes),
      reader.arriving = bytes ++ rest → read reader = .ok value (reader.skip width))
    (short : ∀ reader : Reader, reader.arriving.length < width → read reader =
      .error (failure width reader.arriving.length reader.ending) reader.drain) :
    Respects (Alike ahead) read := by
  intro a b h
  by_cases hl : a.arriving.length < width
  · rw [short a hl, short b (by rw [← h.arriving]; exact hl), h.arriving, h.ending]
    exact .error h.drain
  · have hl := Nat.le_of_not_lt hl
    obtain ⟨field, rest, hrest⟩ := Octets.exists_front hl
    obtain ⟨value, hread⟩ := front field.bytes field.length_eq
    rw [hread a rest hrest, hread b rest (by rw [← h.arriving]; exact hrest)]
    exact .ok (h.skip hl)

theorem respects_octets (width : Nat) : Respects (Alike ahead) (octets width) :=
  respects_of_front (fun bytes hw => ⟨⟨bytes, hw⟩, fun _ _ h => octets_front h⟩)
    fun _ => octets_short rfl

theorem respects_byteString (length : Nat) : Respects (Alike ahead) (byteString length) :=
  respects_of_front (fun bytes hl => ⟨bytes, fun _ _ h => byteString_front h hl⟩)
    fun _ => byteString_short rfl

theorem respects_number (width : Nat) : Respects (Alike ahead) (number width) :=
  (respects_octets width).bind fun _ => .pure _

theorem respects_u8 : Respects (Alike ahead) u8 := (respects_number 1).map _

theorem respects_u16 : Respects (Alike ahead) u16 := (respects_number 2).map _

theorem respects_u32 : Respects (Alike ahead) u32 := (respects_number 4).map _

theorem respects_u64 : Respects (Alike ahead) u64 := (respects_number 8).map _

theorem respects_compactSize : Respects (Alike ahead) compactSize := by
  refine respects_u8.bind fun first => ?_
  refine .ite (.pure _) ?_
  refine (respects_number _).bind fun value => ?_
  exact .ite ((Respects.throw _).bind fun _ => .pure _) (.pure _)

end Reader
end Gossip.Stream
