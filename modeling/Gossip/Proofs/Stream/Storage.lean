import Gossip.Proofs.Stream.Reading

/-! The storage that reading in chunks takes.

A byte string of a claimed length is read into a buffer that grows by a chunk whenever it is full.
`Moment` is what there is between two actions, `Passes` is one action with the read call that it
makes, and `Leads` is any number of them. Storage is the length of the buffer.

`Passes.bounded` says what one action keeps, `Leads.bounded` what is true at every moment.
`leads_gather` says that these are the moments of `gather`: its calls are theirs, and what a reader
makes of a byte string is what they end in (`byteString_leads`). -/
namespace Gossip.Stream

namespace Source

/-! ### One read call -/

/-- One read call that asks for so many bytes, with what it brings and what it leaves. A call that
is interrupted brings nothing. -/
inductive Asks (count : Nat) : Source → Except Stop Bytes → Source → Prop where
  | whole {piece : Bytes} {rest : Source} : piece ≠ [] → piece.length ≤ count →
    Asks count (.data piece :: rest) (.ok piece) rest
  | front {piece : Bytes} {rest : Source} : count < piece.length →
    Asks count (.data piece :: rest) (.ok (piece.take count)) (.data (piece.drop count) :: rest)
  | interrupted {fault : Fault} {rest : Source} : fault.kind = .interrupted →
    Asks count (.fault fault :: rest) (.ok []) rest
  | nothing : Asks count [] (.error .ended) []
  | empty {rest : Source} : Asks count (.data [] :: rest) (.error .ended) rest
  | ended {fault : Fault} {rest : Source} : fault.kind = .unexpectedEof →
    Asks count (.fault fault :: rest) (.error .ended) rest
  | failed {fault : Fault} {rest : Source} : fault.kind ≠ .interrupted →
    fault.kind ≠ .unexpectedEof → Asks count (.fault fault :: rest) (.error (.failed fault)) rest

variable {count received need : Nat} {source rest : Source} {got : Bytes} {stop : Stop}

theorem exists_asks (count : Nat) (source : Source) :
    ∃ result rest, Asks count source result rest := by
  cases source with
  | nil => exact ⟨_, _, .nothing⟩
  | cons event rest =>
    cases event with
    | data piece =>
      by_cases hp : piece = []
      · subst hp
        exact ⟨_, _, .empty⟩
      by_cases hl : piece.length ≤ count
      · exact ⟨_, _, .whole hp hl⟩
      · exact ⟨_, _, .front (Nat.lt_of_not_le hl)⟩
    | fault fault =>
      by_cases hi : fault.kind = .interrupted
      · exact ⟨_, _, .interrupted hi⟩
      by_cases he : fault.kind = .unexpectedEof
      · exact ⟨_, _, .ended he⟩
      · exact ⟨_, _, .failed hi he⟩

theorem drop_ne_nil {piece : Bytes} (h : count < piece.length) : piece.drop count ≠ [] := by
  rw [ne_eq, List.drop_eq_nil_iff]
  exact Nat.not_le_of_lt h

/-- What a call brings is taken from the source, and no more than was asked for. -/
theorem Asks.taken (h : Asks count source (.ok got) rest) :
    got.length ≤ count ∧ source.bytes = got ++ rest.bytes ∧
      source.arriving = got ++ rest.arriving := by
  cases h with
  | whole hp hl => exact ⟨hl, rfl, if_neg hp⟩
  | @front piece rest hl =>
    have hp : piece ≠ [] := List.ne_nil_of_length_pos (Nat.zero_lt_of_lt hl)
    refine ⟨List.length_take_le .., ?_, ?_⟩
    · rw [bytes, bytes, ← List.append_assoc, List.take_append_drop]
    · rw [arriving, if_neg hp, arriving, if_neg (drop_ne_nil hl), ← List.append_assoc,
        List.take_append_drop]
  | interrupted hi => exact ⟨Nat.zero_le _, rfl, if_pos hi⟩

/-- A call that succeeds uses up an event or brings all that it asks for. -/
theorem Asks.progress (h : Asks count source (.ok got) rest) :
    rest.length < source.length ∨ rest.length = source.length ∧ got.length = count := by
  cases h with
  | whole | interrupted => exact .inl (Nat.lt_succ_self _)
  | front hl => exact .inr ⟨rfl, List.length_take_of_le (Nat.le_of_lt hl)⟩

/-- A call that fails takes no byte, and no more arrive. -/
theorem Asks.untaken (h : Asks count source (.error stop) rest) :
    source.bytes = rest.bytes ∧ source.arriving = [] := by
  cases h with
  | nothing => exact ⟨rfl, rfl⟩
  | empty => exact ⟨rfl, if_pos rfl⟩
  | ended he => exact ⟨rfl, if_neg (by rw [he]; nofun)⟩
  | failed hi => exact ⟨rfl, if_neg hi⟩

/-- A series of calls is one call and, if that succeeds, the series for what is needed then. -/
theorem Asks.fill_ok (h : Asks need source (.ok got) rest) (h0 : need ≠ 0) :
    fill received need source = (fill (received + got.length) (need - got.length) rest).after got
      [⟨received + need, received, need⟩] := by
  cases h with
  | whole hp hl =>
    rw [fill, if_neg h0]
    simp only [List.drop_eq_nil_of_le hl, List.take_of_length_le hl, if_neg hp]
  | @front piece rest hl =>
    obtain ⟨byte, left, hd⟩ := List.exists_cons_of_ne_nil (drop_ne_nil hl)
    have ht : (piece.take need).length = need := List.length_take_of_le (Nat.le_of_lt hl)
    rw [fill, if_neg h0, ht, Nat.sub_self, fill, if_pos rfl]
    simp only [hd, Fill.after, Fill.nothing, List.append_nil]
  | interrupted hi =>
    rw [fill, if_neg h0]
    simp only [hi]
    rfl

theorem Asks.fill_error (h : Asks need source (.error stop) rest) (h0 : need ≠ 0) :
    fill received need source = ⟨[], some stop, rest, [⟨received + need, received, need⟩]⟩ := by
  cases h with
  | nothing => rw [fill, if_neg h0]
  | empty =>
    rw [fill, if_neg h0]
    simp
  | ended he =>
    rw [fill, if_neg h0]
    simp only [he]
  | failed hi he => exact fill_failed h0 hi he

theorem length_got_le (received need : Nat) (source : Source) :
    (fill received need source).got.length ≤ need := by
  by_cases h : need ≤ source.arriving.length
  · rw [(fill_enough received need source h).1]
    exact List.length_take_le ..
  · rw [(fill_short received need source (Nat.lt_of_not_le h)).1]
    exact Nat.le_of_not_le h

end Source

open Source (ReadCall Stop chunkSize)

/-! ### Moments -/

/-- One moment of reading a byte string: the buffer, how many bytes of it have been received, why
no more will be, and the source. -/
structure Moment where
  buffer : Bytes
  received : Nat
  stop : Option Stop
  source : Source
  deriving DecidableEq, Repr

namespace Moment

/-- Nothing has been asked for, and nothing is stored. -/
def start (source : Source) : Moment := ⟨[], 0, none, source⟩

/-- The front of the buffer, as far as it has been received. -/
def got (moment : Moment) : Bytes := moment.buffer.take moment.received

/-- How much of the buffer has not been received. -/
def wanting (moment : Moment) : Nat := moment.buffer.length - moment.received

/-- What will still arrive. -/
def arriving (moment : Moment) : Bytes :=
  if moment.stop = none then moment.source.arriving else []

/-- The call that asks for all of the buffer that has not been received. -/
def call (moment : Moment) : ReadCall :=
  ⟨moment.buffer.length, moment.received, moment.wanting⟩

/-- The buffer with room for one more chunk, or for what is missing if that is less. -/
def grow (length : Nat) (moment : Moment) : Moment :=
  { moment with
    buffer := moment.buffer ++
      List.replicate (min (length - moment.buffer.length) chunkSize) 0 }

/-- Further bytes have been received, behind those that were there. -/
def receive (got : Bytes) (rest : Source) (moment : Moment) : Moment :=
  { moment with
    buffer := moment.got ++ got ++ moment.buffer.drop (moment.received + got.length)
    received := moment.received + got.length
    source := rest }

def fail (stop : Stop) (rest : Source) (moment : Moment) : Moment :=
  { moment with stop := some stop, source := rest }

/-- One action, with the read call that it makes, if it makes one. -/
inductive Passes (length : Nat) (moment : Moment) : List ReadCall → Moment → Prop where
  | receives {got : Bytes} {rest : Source} : moment.stop = none →
    moment.received < moment.buffer.length →
    Source.Asks moment.wanting moment.source (.ok got) rest →
    Passes length moment [moment.call] (moment.receive got rest)
  | fails {stop : Stop} {rest : Source} : moment.stop = none →
    moment.received < moment.buffer.length →
    Source.Asks moment.wanting moment.source (.error stop) rest →
    Passes length moment [moment.call] (moment.fail stop rest)
  | grows : moment.stop = none → moment.received = moment.buffer.length →
    moment.buffer.length < length → Passes length moment [] (moment.grow length)

/-- From one moment to a later one, with the read calls made in between. -/
inductive Leads (length : Nat) (first : Moment) : List ReadCall → Moment → Prop where
  | here : Leads length first [] first
  | on {calls more : List ReadCall} {moment next : Moment} : Leads length first calls moment →
    Passes length moment more next → Leads length first (calls ++ more) next

/-- What reading comes to that ends at this moment, for who had read so many bytes before. -/
def outcome (length before : Nat) (moment : Moment) : EStateM.Result Error Reader Bytes :=
  let reader : Reader := ⟨moment.source, before + moment.received⟩
  match moment.stop with
  | none => .ok moment.buffer reader
  | some stop => .error (Reader.failure length moment.received stop) reader

/-! ### What is true at every moment -/

/-- What has been received is what has been taken from the source, and the buffer is no more than a
chunk ahead of it. -/
structure Bounded (length : Nat) (source : Source) (moment : Moment) : Prop where
  received : moment.received ≤ moment.buffer.length
  within : moment.buffer.length ≤ length
  ahead : moment.buffer.length ≤ moment.received + chunkSize
  bytes : source.bytes = moment.got ++ moment.source.bytes
  arriving : source.arriving = moment.got ++ moment.arriving

/-- A read call that asks for no more than a chunk and no more than is missing, and is made with no
more than a chunk of storage beyond what has arrived. -/
structure Modest (length : Nat) (source : Source) (call : ReadCall) : Prop where
  chunk : call.asked ≤ chunkSize
  missing : call.asked ≤ length - call.received
  received : call.received ≤ min length source.arriving.length
  ahead : call.storage ≤ call.received + chunkSize

variable {length : Nat} {source : Source} {moment next : Moment} {calls : List ReadCall}

/-! ### Buffers -/

theorem length_got (h : moment.received ≤ moment.buffer.length) :
    moment.got.length = moment.received := by
  rw [got, List.length_take, Nat.min_eq_left h]

theorem length_receive (got : Bytes) (rest : Source)
    (h : moment.received + got.length ≤ moment.buffer.length) :
    (moment.receive got rest).buffer.length = moment.buffer.length := by
  simp only [receive, Moment.got, List.length_append, List.length_take, List.length_drop]
  omega

theorem got_receive (got : Bytes) (rest : Source)
    (h : moment.received ≤ moment.buffer.length) :
    (moment.receive got rest).got = moment.got ++ got := by
  refine List.take_left' ?_
  rw [List.length_append, length_got h]
  rfl

theorem length_grow (length : Nat) (moment : Moment) :
    (moment.grow length).buffer.length =
      moment.buffer.length + min (length - moment.buffer.length) chunkSize := by
  rw [grow, List.length_append, List.length_replicate]

theorem got_grow (length : Nat) (h : moment.received = moment.buffer.length) :
    (moment.grow length).got = moment.got :=
  List.take_append_of_le_length (Nat.le_of_eq h)

/-! ### One action -/

theorem bounded_start (length : Nat) (source : Source) : (start source).Bounded length source :=
  ⟨Nat.le_refl _, Nat.zero_le _, Nat.zero_le _, rfl, rfl⟩

namespace Bounded

/-- No more has been received than arrives. -/
theorem received_le (h : moment.Bounded length source) :
    moment.received ≤ source.arriving.length := by
  rw [h.arriving, List.length_append, length_got h.received]
  exact Nat.le_add_right ..

theorem modest_call (h : moment.Bounded length source) : Modest length source moment.call where
  chunk := by
    have := h.ahead
    show moment.buffer.length - moment.received ≤ chunkSize
    omega
  missing := Nat.sub_le_sub_right h.within _
  received := Nat.le_min.mpr ⟨Nat.le_trans h.received h.within, h.received_le⟩
  ahead := h.ahead

theorem receive {got : Bytes} {rest : Source} (h : moment.Bounded length source)
    (hstop : moment.stop = none)
    (hask : Source.Asks moment.wanting moment.source (.ok got) rest) :
    (moment.receive got rest).Bounded length source := by
  obtain ⟨hle, hbytes, harriving⟩ := hask.taken
  have hfits : moment.received + got.length ≤ moment.buffer.length := by
    have := h.received
    rw [wanting] at hle
    omega
  have hlength := length_receive got rest hfits
  have hgot := got_receive got rest h.received
  constructor
  · rw [hlength]
    exact hfits
  · rw [hlength]
    exact h.within
  · rw [hlength]
    exact Nat.le_trans h.ahead (Nat.add_le_add_right (Nat.le_add_right ..) _)
  · rw [hgot, h.bytes, hbytes, List.append_assoc]
    rfl
  · have hhere : moment.arriving = moment.source.arriving := if_pos hstop
    have hnext : (moment.receive got rest).arriving = rest.arriving := if_pos hstop
    rw [hgot, h.arriving, hhere, harriving, hnext, List.append_assoc]

theorem fail {stop : Stop} {rest : Source} (h : moment.Bounded length source)
    (hstop : moment.stop = none)
    (hask : Source.Asks moment.wanting moment.source (.error stop) rest) :
    (moment.fail stop rest).Bounded length source := by
  obtain ⟨hbytes, harriving⟩ := hask.untaken
  refine ⟨h.received, h.within, h.ahead, ?_, ?_⟩
  · rw [h.bytes, hbytes]
    rfl
  · have hhere : moment.arriving = moment.source.arriving := if_pos hstop
    rw [h.arriving, hhere, harriving]
    rfl

theorem grow (h : moment.Bounded length source) (hfull : moment.received = moment.buffer.length) :
    (moment.grow length).Bounded length source := by
  have hwithin := h.within
  have hlength := length_grow length moment
  have hgot := got_grow length hfull
  constructor
  · rw [hlength]
    exact Nat.le_trans h.received (Nat.le_add_right ..)
  · rw [hlength]
    omega
  · rw [hlength]
    show _ ≤ moment.received + chunkSize
    omega
  · rw [hgot]
    exact h.bytes
  · rw [hgot]
    exact h.arriving

end Bounded

/-- One action keeps the bounds, and its call is modest. -/
theorem Passes.bounded (h : moment.Passes length calls next) (hb : moment.Bounded length source) :
    next.Bounded length source ∧ ∀ call ∈ calls, Modest length source call := by
  cases h with
  | receives hstop _ hask =>
    exact ⟨hb.receive hstop hask, List.forall_mem_singleton.mpr hb.modest_call⟩
  | fails hstop _ hask => exact ⟨hb.fail hstop hask, List.forall_mem_singleton.mpr hb.modest_call⟩
  | grows _ hfull _ => exact ⟨hb.grow hfull, nofun⟩

/-- The bounds hold at every moment, and all calls have been modest. -/
theorem Leads.bounded (h : Leads length (start source) calls moment) :
    moment.Bounded length source ∧ ∀ call ∈ calls, Modest length source call := by
  induction h with
  | here => exact ⟨bounded_start length source, nofun⟩
  | on _ hpasses ih =>
    obtain ⟨hnext, hmore⟩ := hpasses.bounded ih.1
    refine ⟨hnext, fun call hcall => ?_⟩
    cases List.mem_append.mp hcall with
    | inl hcall => exact ih.2 call hcall
    | inr hcall => exact hmore call hcall

/-! ### The moments of reading in chunks -/

theorem Leads.trans {more : List ReadCall} {last : Moment} (h : Leads length moment calls next)
    (h' : Leads length next more last) : Leads length moment (calls ++ more) last := by
  induction h' with
  | here =>
    rw [List.append_nil]
    exact h
  | on _ hpasses ih =>
    rw [← List.append_assoc]
    exact .on ih hpasses

theorem Passes.leads {more : List ReadCall} {last : Moment} (h : Passes length moment calls next)
    (h' : Leads length next more last) : Leads length moment (calls ++ more) last :=
  .trans (.on .here h) h'

/-- What a series of read calls makes of a moment. -/
def after (filled : Source.Fill) (moment : Moment) : Moment :=
  { moment.receive filled.got filled.rest with stop := filled.stop }

theorem after_nothing (source : Source) (buffer : Bytes) (received : Nat) :
    after (.nothing source) ⟨buffer, received, none, source⟩ =
      ⟨buffer, received, none, source⟩ := by
  simp [after, receive, got, Source.Fill.nothing]

theorem after_stopped (stop : Stop) (rest : Source) (calls : List ReadCall) (moment : Moment) :
    moment.after ⟨[], some stop, rest, calls⟩ = moment.fail stop rest := by
  simp [after, receive, got, fail]

/-- What a later series of calls makes of the moment, with the first call counted in. -/
theorem after_receive {got : Bytes} {rest : Source} (filled : Source.Fill)
    (h : moment.received ≤ moment.buffer.length) :
    (moment.receive got rest).after filled = moment.after (filled.after got calls) := by
  have hgot := got_receive got rest h
  have hfront : (moment.got ++ got).length = moment.received + got.length := by
    rw [List.length_append, length_got h]
  have hback (count : Nat) : (moment.receive got rest).buffer.drop
      (moment.received + got.length + count) =
        moment.buffer.drop (moment.received + got.length + count) := by
    show (moment.got ++ got ++ moment.buffer.drop _).drop _ = _
    rw [← hfront, List.drop_length_add_append, List.drop_drop]
  simp only [after, receive, Source.Fill.after] at hgot hback ⊢
  rw [hgot, hback, List.length_append, ← Nat.add_assoc, List.append_assoc moment.got]

variable {buffer : Bytes} {received need : Nat} {rest : Source}

theorem call_eq (source : Source) (h : buffer.length = received + need) :
    (⟨buffer, received, none, source⟩ : Moment).call = ⟨received + need, received, need⟩ := by
  simp [call, wanting, h]

theorem wanting_eq (source : Source) (h : buffer.length = received + need) :
    (⟨buffer, received, none, source⟩ : Moment).wanting = need := by
  simp [wanting, h]

/-- The moments of filling the buffer. -/
theorem leads_fill (length received need : Nat) (source : Source) (buffer : Bytes)
    (hneed : buffer.length = received + need) :
    Leads length ⟨buffer, received, none, source⟩ (Source.fill received need source).calls
      (after (Source.fill received need source) ⟨buffer, received, none, source⟩) := by
  by_cases h0 : need = 0
  · rw [Source.fill, if_pos h0, after_nothing]
    exact .here
  have hroom : received < buffer.length := by omega
  have hcall := call_eq source hneed
  obtain ⟨result, rest, hask⟩ := Source.exists_asks need source
  have hasks := hask
  rw [← wanting_eq source hneed] at hasks
  cases result with
  | error stop =>
    rw [hask.fill_error h0, after_stopped, ← hcall]
    exact .on .here (.fails rfl hroom hasks)
  | ok got =>
    have hle : got.length ≤ need := hask.taken.1
    have hfits : received + got.length ≤ buffer.length := by omega
    have hlength : _ = buffer.length :=
      @length_receive ⟨buffer, received, none, source⟩ got rest hfits
    have hlater := leads_fill length (received + got.length) (need - got.length) rest _
      (hlength.trans (by omega))
    rw [hask.fill_ok h0, ← hcall, ← after_receive _ (Nat.le_of_lt hroom)]
    exact Passes.leads (.receives rfl hroom hasks) hlater
-- A call may leave the rest of a piece, so the source alone does not get shorter.
termination_by source.length + need
decreasing_by
  have := hask.progress
  omega

/-- Nothing more happens. -/
def IsLast (length : Nat) (moment : Moment) : Prop :=
  ∀ calls next, ¬ Passes length moment calls next

theorem isLast_of_stopped (h : moment.stop ≠ none) : moment.IsLast length := by
  intro calls next hpasses
  cases hpasses <;> contradiction

theorem isLast_of_full (hroom : moment.received = moment.buffer.length)
    (hlength : moment.buffer.length = length) : moment.IsLast length := by
  intro calls next hpasses
  cases hpasses <;> omega

/-- If nothing has stopped the series, all of the buffer has been received at the last moment. -/
theorem IsLast.full (h : moment.IsLast length) (hstop : moment.stop = none) :
    moment.got = moment.buffer := by
  refine List.take_of_length_le (Nat.le_of_not_lt fun hroom => ?_)
  obtain ⟨result, rest, hask⟩ := Source.exists_asks moment.wanting moment.source
  cases result with
  | error stop => exact h _ _ (.fails hstop hroom hask)
  | ok got => exact h _ _ (.receives hstop hroom hask)

/-- The moments of reading one chunk into a buffer that is full. -/
theorem leads_chunk (received missing : Nat) (source : Source) (hfull : buffer.length = received)
    (hlength : received + missing = length) (h0 : missing ≠ 0) :
    let filled := Source.fill received (min missing chunkSize) source
    ∃ next, Leads length ⟨buffer, received, none, source⟩ filled.calls next ∧
      next.got = buffer ++ filled.got ∧ next.received = received + filled.got.length ∧
      next.stop = filled.stop ∧ next.source = filled.rest ∧
      next.buffer.length = received + min missing chunkSize := by
  intro filled
  have hgrows : Passes length ⟨buffer, received, none, source⟩ [] _ :=
    .grows rfl hfull.symm (by show buffer.length < length; omega)
  have hmissing : length - buffer.length = missing := by omega
  rw [grow, hmissing] at hgrows
  have hneed : (buffer ++ List.replicate (min missing chunkSize) (0 : UInt8)).length =
      received + min missing chunkSize := by
    rw [List.length_append, List.length_replicate, hfull]
  have hfills := leads_fill length received (min missing chunkSize) source _ hneed
  refine ⟨_, hgrows.leads hfills, ?_, rfl, rfl, rfl, ?_⟩
  · have hroom : received ≤ (buffer ++ List.replicate (min missing chunkSize) 0).length := by
      rw [hneed]
      exact Nat.le_add_right ..
    refine (@got_receive ⟨_, received, none, source⟩ filled.got filled.rest hroom).trans ?_
    rw [got, List.take_left' hfull]
  · refine (length_receive filled.got filled.rest ?_).trans hneed
    show received + filled.got.length ≤ List.length _
    rw [hneed]
    exact Nat.add_le_add_left (Source.length_got_le ..) _

/-- The moments of reading in chunks, by induction on the chunks. -/
theorem leads_gather (length received missing : Nat) (source : Source) :
    ∀ buffer : Bytes, buffer.length = received → received + missing = length →
      ∃ last, Leads length ⟨buffer, received, none, source⟩
          (Source.gather received missing source).calls last ∧ last.IsLast length ∧
        last.got = buffer ++ (Source.gather received missing source).got ∧
        last.received = received + (Source.gather received missing source).got.length ∧
        last.stop = (Source.gather received missing source).stop ∧
        last.source = (Source.gather received missing source).rest := by
  fun_induction Source.gather received missing source with
  | case1 received source =>
    intro buffer hfull hlength
    refine ⟨_, .here, isLast_of_full hfull.symm (hfull.trans hlength), ?_, rfl, rfl, rfl⟩
    rw [got, List.take_of_length_le (Nat.le_of_eq hfull)]
    exact (List.append_nil _).symm
  | case2 received missing source h0 chunk filled hs ih =>
    intro buffer hfull hlength
    have hchunk : chunk ≤ missing := Nat.min_le_left ..
    have hcount : filled.got.length = chunk := Source.length_fill hs
    obtain ⟨⟨grown, count, stop, rest⟩, hleads, hgot, hreceived, hstop, hsource, hbuffer⟩ :=
      leads_chunk received missing source hfull hlength h0
    have hfilled : grown = buffer ++ filled.got := by
      rw [← hgot, got, List.take_of_length_le]
      exact Nat.le_of_eq (by rw [hbuffer, hreceived, hcount])
    have hnext : (⟨grown, count, stop, rest⟩ : Moment) =
        ⟨buffer ++ filled.got, received + chunk, none, filled.rest⟩ := by
      rw [Moment.mk.injEq]
      exact ⟨hfilled, hreceived.trans (by rw [hcount]), hstop.trans hs, hsource⟩
    obtain ⟨last, hlater, hlast, hgot', hreceived', hstop', hsource'⟩ :=
      ih (buffer ++ filled.got) (by rw [List.length_append, hcount, hfull]) (by omega)
    rw [hnext] at hleads
    refine ⟨last, hleads.trans hlater, hlast, ?_, ?_, hstop', hsource'⟩
    · rw [hgot', List.append_assoc]
      rfl
    · rw [hreceived', Source.Fill.after, List.length_append, hcount, Nat.add_assoc]
  | case3 received missing source h0 chunk filled stop hs =>
    intro buffer hfull hlength
    obtain ⟨last, hleads, hgot, hreceived, hstop, hsource, -⟩ :=
      leads_chunk received missing source hfull hlength h0
    have hstopped : last.stop ≠ none := by
      rw [hstop, hs]
      exact Option.some_ne_none stop
    exact ⟨last, hleads, isLast_of_stopped hstopped, hgot, hreceived, hstop, hsource⟩

end Moment

/-- The moments of reading a byte string make the calls that are kept, and the last of them is what
the reader comes to. -/
theorem Reader.byteString_leads (length : Nat) (reader : Reader) :
    ∃ last, Moment.Leads length (.start reader.source)
        (callsMade (tracedByteString length) reader) last ∧
      last.IsLast length ∧ byteString length reader = last.outcome length reader.bytesRead := by
  obtain ⟨last, hleads, hlast, hgot, hreceived, hstop, hsource⟩ :=
    Moment.leads_gather length 0 length reader.source [] rfl (Nat.zero_add _)
  rw [callsMade_byteString]
  refine ⟨last, hleads, hlast, ?_⟩
  rw [List.nil_append] at hgot
  rw [Nat.zero_add] at hreceived
  rw [byteString_eq]
  simp only [Moment.outcome, advanced, hreceived, hsource]
  cases hfilled : (Source.gather 0 length reader.source).stop with
  | none =>
    rw [hfilled] at hstop
    rw [hstop, ← hlast.full hstop, hgot]
  | some stop =>
    rw [hfilled] at hstop
    rw [hstop]

end Gossip.Stream
