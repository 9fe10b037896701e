import Gossip.Stream.Source

/-! What a series of read calls finds.

Whatever its pieces, its faults and the order they come in, a source is a *stretch* of bytes that
arrive (`arriving`), the stop that ends the stretch (`ending`) and what comes after the stop
(`resumed`). Interrupted calls and the borders of pieces leave no trace in any of the three.

`fill_enough` and `fill_short` say that a series of calls sees nothing else: it has what it needs
and moves on within the stretch (`skip`), or it has the whole stretch and meets the stop. `gather`
sees the same, in chunks. -/
namespace Gossip.Stream.Source

/-! ### Stretches -/

/-- The bytes that arrive before the first stop. -/
def arriving : Source → Bytes
  | [] => []
  | .data piece :: rest => if piece = [] then [] else piece ++ arriving rest
  | .fault fault :: rest => if fault.kind = .interrupted then arriving rest else []

/-- The first stop. -/
def ending : Source → Stop
  | [] => .ended
  | .data piece :: rest => if piece = [] then .ended else ending rest
  | .fault fault :: rest =>
    if fault.kind = .interrupted then ending rest
    else if fault.kind = .unexpectedEof then .ended
    else .failed fault

/-- What comes after the first stop. -/
def resumed : Source → Source
  | [] => []
  | .data piece :: rest => if piece = [] then rest else resumed rest
  | .fault fault :: rest => if fault.kind = .interrupted then resumed rest else rest

/-- What is left when `count` bytes have been taken; the events before the last of them are used
up, those behind it are not. -/
def skip (count : Nat) : Source → Source
  | [] => []
  | .data piece :: rest =>
    if count = 0 then .data piece :: rest
    else if piece.length ≤ count then skip (count - piece.length) rest
    else .data (piece.drop count) :: rest
  | .fault fault :: rest => if count = 0 then .fault fault :: rest else skip count rest

@[simp] theorem skip_zero (source : Source) : skip 0 source = source := by
  cases source with
  | nil => rfl
  | cons event rest => cases event <;> simp [skip]

theorem length_bytes (source : Source) : source.bytes.length = source.remaining := by
  induction source with
  | nil => rfl
  | cons event rest ih => cases event <;> simp [bytes, remaining, ih]

/-- No byte is lost between a stretch and what comes after its stop. -/
theorem bytes_eq (source : Source) : source.bytes = source.arriving ++ source.resumed.bytes := by
  induction source with
  | nil => rfl
  | cons event rest ih =>
    cases event with
    | data piece => by_cases h : piece = [] <;> simp [bytes, arriving, resumed, h, ih]
    | fault fault =>
      by_cases h : fault.kind = .interrupted <;> simp [bytes, arriving, resumed, h, ih]

/-- A fault that stops a source is neither an interrupted call nor the word that the stream has
ended. -/
theorem kind_of_ending {source : Source} {fault : Fault} (h : source.ending = .failed fault) :
    fault.kind ≠ .interrupted ∧ fault.kind ≠ .unexpectedEof := by
  induction source with
  | nil => cases h
  | cons event rest ih =>
    cases event with
    | data piece =>
      by_cases hp : piece = []
      · rw [ending, if_pos hp] at h
        cases h
      · rw [ending, if_neg hp] at h
        exact ih h
    | fault met =>
      by_cases hi : met.kind = .interrupted
      · rw [ending, if_pos hi] at h
        exact ih h
      by_cases he : met.kind = .unexpectedEof
      · rw [ending, if_neg hi, if_pos he] at h
        cases h
      · rw [ending, if_neg hi, if_neg he] at h
        cases h
        exact ⟨hi, he⟩

/-- A byte string in one piece is one stretch, up to the end of the stream. -/
theorem stretch_ofBytes (bytes : Bytes) :
    (ofBytes bytes).arriving = bytes ∧ (ofBytes bytes).ending = .ended ∧
      (ofBytes bytes).resumed = [] := by
  by_cases h : bytes = [] <;> simp [ofBytes, arriving, ending, resumed, h]

/-! ### Moving on within a stretch -/

/-- Moving on within a stretch changes neither its stop nor what comes after. -/
theorem skip_stretch (count : Nat) (source : Source) (h : count ≤ source.arriving.length) :
    (skip count source).arriving = source.arriving.drop count ∧
      (skip count source).ending = source.ending ∧
      (skip count source).resumed = source.resumed := by
  induction source generalizing count with
  | nil => simp [skip, arriving]
  | cons event rest ih =>
    by_cases h0 : count = 0
    · simp [h0]
    cases event with
    | fault fault =>
      by_cases hk : fault.kind = .interrupted
      · simp only [arriving, hk, if_true] at h
        simpa [skip, h0, arriving, ending, resumed, hk] using ih count h
      · simp only [arriving, hk, if_false, List.length_nil] at h
        omega
    | data piece =>
      by_cases hp : piece = []
      · simp only [arriving, hp, if_true, List.length_nil] at h
        omega
      · simp only [arriving, hp, if_false, List.length_append] at h
        by_cases hl : piece.length ≤ count
        · have hd : piece.drop count = [] := List.drop_eq_nil_of_le hl
          have := ih (count - piece.length) (by omega)
          simpa [skip, h0, hl, arriving, ending, resumed, hp, List.drop_append, hd] using this
        · have hd : piece.drop count ≠ [] := by simpa using hl
          have hc : count - piece.length = 0 := by omega
          simp [skip, h0, hl, arriving, ending, resumed, hp, hd, List.drop_append, hc]

theorem arriving_skip (count : Nat) (source : Source) (h : count ≤ source.arriving.length) :
    (skip count source).arriving = source.arriving.drop count :=
  (skip_stretch count source h).1

theorem ending_skip (count : Nat) (source : Source) (h : count ≤ source.arriving.length) :
    (skip count source).ending = source.ending :=
  (skip_stretch count source h).2.1

theorem resumed_skip (count : Nat) (source : Source) (h : count ≤ source.arriving.length) :
    (skip count source).resumed = source.resumed :=
  (skip_stretch count source h).2.2

theorem skip_skip (first second : Nat) (source : Source) :
    skip second (skip first source) = skip (first + second) source := by
  induction source generalizing first second with
  | nil => rfl
  | cons event rest ih =>
    by_cases h1 : first = 0
    · simp [h1]
    by_cases h2 : second = 0
    · simp [h2]
    have h12 : first + second ≠ 0 := by omega
    cases event with
    | fault fault => simp only [skip, h1, h12, if_false, ih]
    | data piece =>
      by_cases hl : piece.length ≤ first
      · have hl' : piece.length ≤ first + second := by omega
        have hs : first - piece.length + second = first + second - piece.length := by omega
        simp only [skip, h1, h12, hl, hl', if_false, if_true, ih, hs]
      · by_cases hl' : piece.length ≤ first + second
        · have hs : second - (piece.length - first) = first + second - piece.length := by omega
          have hd : piece.length - first ≤ second := by omega
          simp only [skip, h1, h2, h12, hl, hl', hd, if_false, if_true, List.length_drop, hs]
        · have hd : ¬ piece.length - first ≤ second := by omega
          simp only [skip, h1, h2, h12, hl, hl', hd, if_false, List.length_drop, List.drop_drop]

theorem bytes_skip (count : Nat) (source : Source) (h : count ≤ source.arriving.length) :
    (skip count source).bytes = source.bytes.drop count := by
  rw [bytes_eq (skip count source), bytes_eq source, arriving_skip count source h,
    resumed_skip count source h, List.drop_append_of_le_length h]

/-! ### Series of read calls -/

/-- A series that has what it needs before the stop. -/
theorem fill_enough (received need : Nat) (source : Source) (h : need ≤ source.arriving.length) :
    (fill received need source).got = source.arriving.take need ∧
      (fill received need source).stop = none ∧
      (fill received need source).rest = skip need source := by
  induction source generalizing received need with
  | nil =>
    have h0 : need = 0 := by simpa [arriving] using h
    simp [fill, h0, Fill.nothing]
  | cons event rest ih =>
    unfold fill
    by_cases h0 : need = 0
    · simp [h0, Fill.nothing]
    cases event with
    | fault fault =>
      by_cases hk : fault.kind = .interrupted
      · simp only [arriving, hk, if_true] at h
        simpa [h0, hk, arriving, skip, Fill.after] using ih received need h
      · simp only [arriving, hk, if_false, List.length_nil] at h
        omega
    | data piece =>
      by_cases hp : piece = []
      · simp only [arriving, hp, if_true, List.length_nil] at h
        omega
      · simp only [arriving, hp, if_false, List.length_append] at h
        by_cases hl : piece.length ≤ need
        · have hd : piece.drop need = [] := List.drop_eq_nil_of_le hl
          have ht : piece.take need = piece := List.take_of_length_le hl
          have := ih (received + piece.length) (need - piece.length) (by omega)
          simpa [h0, hd, ht, hp, hl, arriving, skip, Fill.after, List.take_append] using this
        · have hc : need - piece.length = 0 := by omega
          obtain ⟨byte, left, hd⟩ :=
            List.exists_cons_of_ne_nil (l := piece.drop need) (by simpa using hl)
          simp [h0, hd, hp, hl, arriving, skip, List.take_append, hc]

/-- A fault that is no interruption and no end is passed on. -/
theorem fill_failed {received need : Nat} {fault : Fault} {rest : Source} (h0 : need ≠ 0)
    (hi : fault.kind ≠ .interrupted) (he : fault.kind ≠ .unexpectedEof) :
    fill received need (.fault fault :: rest) =
      ⟨[], some (.failed fault), rest, [⟨received + need, received, need⟩]⟩ := by
  rw [fill, if_neg h0]
  dsimp only
  split
  · contradiction
  · contradiction
  · rfl

/-- A series that meets the stop first. -/
theorem fill_short (received need : Nat) (source : Source) (h : source.arriving.length < need) :
    (fill received need source).got = source.arriving ∧
      (fill received need source).stop = some source.ending ∧
      (fill received need source).rest = source.resumed := by
  induction source generalizing received need with
  | nil =>
    have h0 : need ≠ 0 := by omega
    simp [fill, h0, arriving, ending, resumed]
  | cons event rest ih =>
    have h0 : need ≠ 0 := by omega
    cases event with
    | fault fault =>
      by_cases hk : fault.kind = .interrupted
      · simp only [arriving, hk, if_true] at h
        rw [fill, if_neg h0]
        simpa [hk, arriving, ending, resumed, Fill.after] using ih received need h
      by_cases he : fault.kind = .unexpectedEof
      · rw [fill, if_neg h0]
        simp [he, arriving, ending, resumed]
      · simp [fill_failed h0 hk he, hk, he, arriving, ending, resumed]
    | data piece =>
      rw [fill, if_neg h0]
      by_cases hp : piece = []
      · simp [hp, arriving, ending, resumed]
      · simp only [arriving, hp, if_false, List.length_append] at h
        have hl : piece.length ≤ need := by omega
        have hd : piece.drop need = [] := List.drop_eq_nil_of_le hl
        have ht : piece.take need = piece := List.take_of_length_le hl
        have := ih (received + piece.length) (need - piece.length) (by omega)
        simpa [hd, ht, hp, arriving, ending, resumed, Fill.after] using this

/-- Chunks change nothing: the first of them is within the stretch, and so is the rest. -/
theorem gather_enough (received missing : Nat) (source : Source)
    (h : missing ≤ source.arriving.length) :
    (gather received missing source).got = source.arriving.take missing ∧
      (gather received missing source).stop = none ∧
      (gather received missing source).rest = skip missing source := by
  fun_induction gather received missing source with
  | case1 received source => simp [Fill.nothing]
  | case2 received missing source h0 chunk filled hs ih =>
    have hc : chunk ≤ missing := Nat.min_le_left ..
    obtain ⟨hgot, -, hrest⟩ := fill_enough received chunk source (by omega)
    change filled.got = _ at hgot
    change filled.rest = _ at hrest
    have harr := arriving_skip chunk source (by omega)
    rw [hrest] at ih
    obtain ⟨ihgot, ihstop, ihrest⟩ := ih (by rw [harr, List.length_drop]; omega)
    rw [hrest]
    simp only [Fill.after, hgot, ihgot, ihstop, ihrest, harr, true_and]
    rw [← List.take_add, skip_skip, Nat.add_sub_cancel' hc]
    exact ⟨rfl, rfl⟩
  | case3 received missing source h0 chunk filled stop hs =>
    have hc : chunk ≤ missing := Nat.min_le_left ..
    have := (fill_enough received chunk source (by omega)).2.1
    simp [filled, this] at hs

/-- The stop is met in the first chunk or in a later one; the whole stretch has arrived by then. -/
theorem gather_short (received missing : Nat) (source : Source)
    (h : source.arriving.length < missing) :
    (gather received missing source).got = source.arriving ∧
      (gather received missing source).stop = some source.ending ∧
      (gather received missing source).rest = source.resumed := by
  fun_induction gather received missing source with
  | case1 received source => omega
  | case2 received missing source h0 chunk filled hs ih =>
    have hc : chunk ≤ source.arriving.length := by
      by_cases hl : chunk ≤ source.arriving.length
      · exact hl
      · have := (fill_short received chunk source (by omega)).2.1
        simp [filled, this] at hs
    obtain ⟨hgot, -, hrest⟩ := fill_enough received chunk source hc
    change filled.got = _ at hgot
    change filled.rest = _ at hrest
    have harr := arriving_skip chunk source hc
    rw [hrest] at ih
    obtain ⟨ihgot, ihstop, ihrest⟩ := ih (by rw [harr, List.length_drop]; omega)
    rw [hrest]
    simp only [Fill.after, hgot, ihgot, ihstop, ihrest, harr, ending_skip chunk source hc,
      resumed_skip chunk source hc, List.take_append_drop, and_self]
  | case3 received missing source h0 chunk filled stop hs =>
    have hl : source.arriving.length < chunk := by
      by_cases hl : source.arriving.length < chunk
      · exact hl
      · have := (fill_enough received chunk source (by omega)).2.1
        simp [filled, this] at hs
    exact fill_short received chunk source hl

end Gossip.Stream.Source
