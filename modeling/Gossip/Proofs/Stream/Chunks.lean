import Gossip.Proofs.Stream.Accounting

/-! Reading in chunks and reading at once.

A byte string of a claimed length is read chunk by chunk, and a buffer is filled in one go. Over the
same source the two come to the same, whatever the pieces, the faults and the borders of the chunks
(`ReadAlike`). `byteString_alike` says so, and that the chunks end: how many calls they make is
bounded by the events of the source and the bytes that arrive, however many bytes were asked for. -/
namespace Gossip.Stream

namespace Source

/-! ### How many calls are made -/

/-- By induction on the events: each call uses up an event, except the last one, which may find what
it needs inside a piece, or nothing at all. -/
theorem length_calls_fill (received need : Nat) (source : Source) :
    (fill received need source).calls.length + (fill received need source).rest.length ≤
      source.length + 1 := by
  induction source generalizing received need with
  | nil =>
    unfold fill
    split <;> simp [Fill.nothing]
  | cons event rest ih =>
    unfold fill
    by_cases h0 : need = 0
    · simp [h0, Fill.nothing]
    rw [if_neg h0]
    cases event with
    | fault fault =>
      have hagain := ih received need
      dsimp only
      split <;> simp only [Fill.after, List.length_append, List.length_cons, List.length_nil] <;>
        omega
    | data piece =>
      have hmore := ih (received + (piece.take need).length) (need - (piece.take need).length)
      dsimp only
      split
      · split <;> simp only [Fill.after, List.length_append, List.length_cons, List.length_nil] <;>
          omega
      · simp only [List.length_cons, List.length_nil]
        omega

/-- A series of calls that has what it needs had it before the stop. -/
theorem le_arriving_of_full {received need : Nat} {source : Source}
    (full : (fill received need source).stop = none) : need ≤ source.arriving.length := by
  apply Nat.le_of_not_lt
  intro hshort
  rw [(fill_short received need source hshort).2.1] at full
  cases full

/-- By induction on the chunks: one that is filled and not the last is a full one, so that as many
bytes have arrived. -/
theorem length_calls_gather (received missing : Nat) (source : Source) :
    (gather received missing source).calls.length + (gather received missing source).rest.length ≤
      source.length + source.arriving.length / chunkSize + 1 := by
  fun_induction gather received missing source with
  | case1 received source =>
    rw [Fill.nothing, List.length_nil, Nat.zero_add]
    exact Nat.le_succ_of_le (Nat.le_add_right ..)
  | case2 received missing source h0 chunk filled hfull ih =>
    have hcalls : filled.calls.length + filled.rest.length ≤ source.length + 1 :=
      length_calls_fill received chunk source
    have harrived : chunk ≤ source.arriving.length := le_arriving_of_full hfull
    have hleft : filled.rest.arriving.length = source.arriving.length - chunk := by
      rw [show filled.rest = skip chunk source from (fill_enough received chunk source harrived).2.2,
        arriving_skip chunk source harrived, List.length_drop]
    rw [hleft] at ih
    rw [Fill.after, List.length_append]
    by_cases hlast : missing - chunk = 0
    · rw [hlast, gather, if_pos rfl, Fill.nothing, List.length_nil, Nat.add_zero]
      exact Nat.le_trans hcalls (Nat.add_le_add_right (Nat.le_add_right ..) 1)
    · have hchunk : chunk = chunkSize := Nat.min_eq_right (by omega)
      have hdiv : source.arriving.length / chunkSize =
          (source.arriving.length - chunk) / chunkSize + 1 := by
        rw [hchunk] at harrived ⊢
        exact Nat.div_eq_sub_div (by decide) harrived
      rw [hdiv]
      dsimp only
      omega
  | case3 received missing source h0 chunk filled stop hstop =>
    exact Nat.le_trans (length_calls_fill received chunk source)
      (Nat.add_le_add_right (Nat.le_add_right ..) 1)

end Source

namespace Reader

/-! ### The same outcome -/

/-- Two reads that come to the same, one to a byte string and one in a buffer of zeros: the same
bytes, or the same error, and in any case the same reader. -/
inductive ReadAlike (length : Nat) (reader : Reader) :
    EStateM.Result Error Reader Bytes → EStateM.Result Error (Bytes × Reader) Unit → Prop where
  | all {bytes : Bytes} {after : Reader} : bytes.length = length → reader.Took after bytes →
    ReadAlike length reader (.ok bytes after) (.ok () (bytes, after))
  /-- The stream ends, and the error tells how many bytes were obtained. -/
  | ended {got : Bytes} {after : Reader} : got.length < length → reader.Took after got →
    ReadAlike length reader (.error (.endOfStream length got.length) after)
      (.error (.endOfStream length got.length)
        (got ++ List.replicate (length - got.length) 0, after))
  | failed {fault : Fault} {got : Bytes} {after : Reader} : got.length < length →
    reader.Took after got →
    ReadAlike length reader (.error (.transport fault) after)
      (.error (.transport fault) (got ++ List.replicate (length - got.length) 0, after))

/-- **Reading in chunks is reading at once**, over any source and for any length, and it ends after
a number of calls that does not depend on the length. -/
theorem byteString_alike (length : Nat) (reader : Reader) (lent : Bytes) :
    ReadAlike length reader (byteString length reader)
      (fillBuffer (List.replicate length 0) (lent, reader)) ∧
    (callsMade (tracedByteString length) reader).length ≤
      reader.source.length + reader.arriving.length / Source.chunkSize + 1 := by
  rw [callsMade_byteString]
  refine ⟨?_, Nat.le_trans (Nat.le_add_right ..) (Source.length_calls_gather 0 length _)⟩
  have hzeros : (List.replicate length (0 : UInt8)).length = length := List.length_replicate
  by_cases hl : reader.arriving.length < length
  · rw [byteString_short rfl hl, fillBuffer_short rfl (by rw [hzeros]; exact hl), hzeros,
      List.drop_replicate]
    cases hstop : reader.ending with
    | ended => exact .ended hl reader.took_drain
    | failed fault => exact .failed hl reader.took_drain
  · have hl := Nat.le_of_not_lt hl
    obtain ⟨field, rest, hrest⟩ := Octets.exists_front hl
    have htook := took_skip hl
    rw [hrest, List.take_left' field.length_eq] at htook
    rw [byteString_front hrest field.length_eq,
      fillBuffer_front hrest (by rw [hzeros]; exact field.length_eq), hzeros]
    exact .all field.length_eq htook

/-- Three bytes, a call that is interrupted and the end of the stream, where four were asked for. -/
example :
    let source : Source := [.data [1, 2], .fault ⟨.interrupted, "again"⟩, .data [3]]
    byteString 4 ⟨source, 7⟩ = .error (.endOfStream 4 3) ⟨[], 10⟩ ∧
      fillBuffer [0, 0, 0, 0] ([], ⟨source, 7⟩) =
        .error (.endOfStream 4 3) ([1, 2, 3, 0], ⟨[], 10⟩) := by
  cbv

end Reader
end Gossip.Stream
