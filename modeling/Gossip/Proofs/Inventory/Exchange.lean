import Gossip.Proofs.Inventory.Message

/-! What one peer writes and another reads.

Messages that are written one behind the other are read back in order, whatever follows the last of
them (`read_written`). What changes on the way is a kind that is unknown although its tag has a
name, and nothing else. The other way round, a message that was read can be passed on: it is written
as the bytes it was read from, up to those that its frame carries behind its layout (`relay`). -/
namespace Gossip.InventoryMessage
open Inbound (Ahead)

variable {version : ProtocolVersion} {network : Network} {limits : Limits}

/-! ### What a message keeps -/

theorem eq_of_inventory_eq {a b : InventoryMessage} (hkind : a.kind = b.kind)
    (hinventory : a.inventory = b.inventory) : a = b := by
  obtain ⟨kind, ⟨inventory⟩⟩ := a
  obtain ⟨kind', ⟨inventory'⟩⟩ := b
  cases hkind
  cases hinventory
  rfl

/-- A message is read back as it is unless one of its kinds is unknown by a tag with a name. -/
theorem canonical_eq_self (message : InventoryMessage) :
    message.canonical = message ↔ ∀ item ∈ message.inventory.toList,
      ∀ tag, item.type = .unknown tag → ¬ ObjectType.IsNamed tag := by
  simp only [← Item.canonical_eq_self, ← Inventory.canonical_eq_self_iff]
  constructor
  · exact congrArg inventory
  · exact fun h => eq_of_inventory_eq (a := message.canonical) rfl h

/-! ### Many messages -/

/-- The frames of messages, one behind the other. -/
def frames (network : Network) (messages : List InventoryMessage) : Bytes :=
  messages.flatMap fun message => (message.frame network).encode

theorem length_frame (network : Network) (message : InventoryMessage) :
    (message.frame network).encode.length = 24 + message.inventory.encodedLength := by
  rw [Frame.length_encode, ← Inventory.length_encoding]
  rfl

theorem write_all (version : ProtocolVersion) (network : Network)
    {messages : List InventoryMessage} (outbound : Outbound) (h : outbound.sink.Unbounded)
    (hl : ∀ message ∈ messages, message.inventory.encodedLength ≤ limits.maxPayloadBytes) :
    ∃ log, messages.mapM (Frame.write · version network limits) outbound =
      .ok (messages.map fun message => 24 + message.inventory.encodedLength)
        ⟨outbound.sink.grown (frames network messages), log⟩ := by
  induction messages generalizing outbound with
  | nil => exact ⟨outbound.log, rfl⟩
  | cons message rest ih =>
    obtain ⟨log, hfirst⟩ := write_unbounded version network outbound h
      (hl message (List.mem_cons_self ..))
    have hgrown := h.grown (message.frame network).encode
    obtain ⟨after, hrest⟩ := ih ⟨outbound.sink.grown (message.frame network).encode, log⟩ hgrown
      fun other hother => hl other (List.mem_cons_of_mem message hother)
    refine ⟨after, ?_⟩
    rw [List.mapM_cons, Stream.bind_ok hfirst, Stream.bind_ok hrest, length_frame,
      Stream.Sink.grown_grown]
    rfl

/-- Messages are read from their frames, whatever follows the last of them. -/
theorem read_all (version : ProtocolVersion) {messages : List InventoryMessage} {start : Inbound}
    {count : Nat} {rest : Bytes}
    (h : Ahead start count (frames network messages ++ rest))
    (hl : ∀ message ∈ messages, message.inventory.encodedLength ≤ limits.maxPayloadBytes) :
    ∃ log, (List.replicate messages.length ()).mapM (fun _ => read version network limits)
        (start.skip count) =
      .ok (messages.map canonical)
        (Inbound.skip (count + (frames network messages).length) ⟨start.reader, log⟩) := by
  induction messages generalizing start count with
  | nil => exact ⟨start.log, rfl⟩
  | cons message messages ih =>
    have hframes : frames network (message :: messages) =
        (message.frame network).encode ++ frames network messages := List.flatMap_cons
    rw [hframes, List.append_assoc] at h
    obtain ⟨log, hfirst⟩ := read_front version h (hl message (List.mem_cons_self ..))
    have hahead : Ahead ⟨start.reader, log⟩ (count + (message.frame network).encode.length)
        (frames network messages ++ rest) := h.next rfl
    obtain ⟨after, hrest⟩ := ih hahead fun other hother =>
      hl other (List.mem_cons_of_mem message hother)
    refine ⟨after, ?_⟩
    rw [List.length_cons, List.replicate_succ, List.mapM_cons, Stream.bind_ok hfirst,
      Stream.bind_ok hrest, hframes, List.length_append, ← Nat.add_assoc]
    rfl

/-- What a message is when it has been written and read. -/
structure Arrives (sent received : InventoryMessage) : Prop where
  kind : received.kind = sent.kind
  /-- The items are the same in number, order and hashes, and have the kinds of their tags. -/
  items : received.inventory.toList = sent.inventory.toList.map Item.canonical
  /-- Only an unknown kind whose tag has a name makes a difference. -/
  same : received = sent ↔ ∀ item ∈ sent.inventory.toList,
    ∀ tag, item.type = .unknown tag → ¬ ObjectType.IsNamed tag

theorem arrives_canonical (message : InventoryMessage) : Arrives message message.canonical :=
  ⟨rfl, message.inventory.toList_canonical, message.canonical_eq_self⟩

/-- **What is written is read back.** Messages that are written one behind the other within the
limits of both sides arrive in order, and exactly what follows them is left. -/
theorem read_written (network : Network) (version : ProtocolVersion)
    (messages : List InventoryMessage) (suffix : Bytes) (writeLimits readLimits : Limits)
    (hwrite : ∀ message ∈ messages,
      message.inventory.encodedLength ≤ writeLimits.maxPayloadBytes)
    (hread : ∀ message ∈ messages,
      message.inventory.encodedLength ≤ readLimits.maxPayloadBytes) :
    ∃ outbound received inbound,
      messages.mapM (Frame.write · version network writeLimits) ⟨.unbounded, []⟩ =
        .ok (messages.map fun message => 24 + message.inventory.encodedLength) outbound ∧
      (List.replicate messages.length ()).mapM (fun _ => read version network readLimits)
        ⟨.ofBytes (outbound.sink.taken ++ suffix), []⟩ = .ok received inbound ∧
      inbound.reader.source.bytes = suffix ∧
      ∃ hlen : received.length = messages.length,
        ∀ k (hk : k < messages.length), Arrives messages[k] received[k] := by
  obtain ⟨records, hwritten⟩ := write_all version network ⟨.unbounded, []⟩
    Stream.Sink.unbounded_unbounded hwrite
  have htaken := Stream.Sink.taken_unbounded (frames network messages)
  have hahead := Decoder.ahead_ofBytes (frames network messages ++ suffix) []
  obtain ⟨log, hreceived⟩ := read_all version hahead hread
  rw [Inbound.skip_zero, Nat.zero_add] at hreceived
  refine ⟨_, messages.map canonical, Inbound.skip (frames network messages).length
    ⟨.ofBytes (frames network messages ++ suffix), log⟩, hwritten, ?_,
    Decoder.bytes_skip_front (frames network messages) suffix, List.length_map .., ?_⟩
  · rw [htaken]
    exact hreceived
  · intro k hk
    rw [List.getElem_map]
    exact arrives_canonical messages[k]

/-- An unknown kind whose tag has a name goes out, and an empty request after it. -/
theorem read_written_pair :
    let sent : List InventoryMessage :=
      [⟨.inv, ⟨⟨#[⟨.unknown 1, .zero⟩], by decide⟩⟩⟩, ⟨.getData, .empty⟩]
    (∀ message ∈ sent, message.inventory.encodedLength ≤ Limits.small.maxPayloadBytes) ∧
    ∃ outbound received inbound,
      sent.mapM (Frame.write · .current .regtest .small) ⟨.unbounded, []⟩ =
        .ok [61, 25] outbound ∧
      (List.replicate 2 ()).mapM (fun _ => read .current .regtest .small)
        ⟨.ofBytes (outbound.sink.taken ++ [0x2A]), []⟩ = .ok received inbound ∧
      inbound.reader.source.bytes = [0x2A] ∧ received.length = 2 ∧ received ≠ sent := by
  intro sent
  have hfits : ∀ message ∈ sent,
      message.inventory.encodedLength ≤ Limits.small.maxPayloadBytes := by decide
  obtain ⟨outbound, received, inbound, hwrite, hread, hrest, hlen, harrives⟩ :=
    read_written .regtest .current sent [0x2A] .small .small hfits hfits
  refine ⟨hfits, outbound, received, inbound, hwrite, hread, hrest, hlen, ?_⟩
  rintro rfl
  exact (harrives 0 (by decide)).same.mp rfl ⟨.unknown 1, .zero⟩ (by decide) 1 rfl (by decide)

/-! ### Passing on -/

/-- A message is written in the frame it was read from, unless that frame carries more than the
message. -/
theorem frame_eq {message : InventoryMessage} {frame : Frame} {trailing : Bytes}
    (valid : frame.Valid network limits) (hcommand : frame.command = message.kind.command)
    (hpayload : frame.payload = message.inventory.encoding ++ trailing) :
    (message.frame network).encode = frame.encode ↔
      frame.payload.length = message.inventory.encodedLength := by
  constructor
  · intro h
    have hlen := congrArg List.length h
    rw [length_frame, frame.length_encode] at hlen
    exact (Nat.add_left_cancel hlen).symm
  · intro h
    have hnone : trailing = [] := by
      rw [hpayload, List.length_append, Inventory.length_encoding] at h
      exact List.length_eq_zero_iff.mp (Nat.add_eq_left.mp h)
    have hname : frame.header.command = message.kind.wireCommand :=
      Command.eq_of_text_eq (hcommand.trans message.kind.text_wireCommand.symm)
    rw [hnone, List.append_nil] at hpayload
    rw [valid.eq_forPayload, hname, hpayload]
    rfl

/-- What is read from a byte string, and how much of it. -/
theorem eq_of_read_ofBytes {bytes : Bytes} {log : Log} {message : InventoryMessage}
    {inbound : Inbound}
    (h : read version network limits ⟨.ofBytes bytes, log⟩ = .ok message inbound) :
    ∃ (frame : Frame) (rest trailing : Bytes), frame.Valid network limits ∧
      bytes = frame.encode ++ rest ∧ inbound.reader.source.bytes = rest ∧
        inbound.reader.bytesRead = frame.encode.length ∧ frame.command = message.kind.command ∧
          frame.payload = message.inventory.encoding ++ trailing := by
  obtain ⟨frame, rest, trailing, _, valid, hahead, hcommand, hpayload, -, rfl⟩ := eq_of_read h
  obtain rfl := Decoder.eq_of_ahead_ofBytes hahead
  exact ⟨frame, rest, trailing, valid, rfl, Decoder.bytes_skip_front frame.encode rest,
    Nat.zero_add _, hcommand, hpayload⟩

/-- **What is read can be passed on.** A message that was read is written within the same limits,
with a payload that is the one it was read from, up to the length of the message. The bytes are the
same as those read if and only if nothing is left out. -/
theorem relay {bytes : Bytes} {log : Log} {message : InventoryMessage} {inbound : Inbound}
    (h : read version network limits ⟨.ofBytes bytes, log⟩ = .ok message inbound)
    (records : Log) :
    let consumed := inbound.reader.bytesRead
    let payload := (bytes.take consumed).drop 24
    let length := message.inventory.encodedLength
    consumed ≤ bytes.length ∧ inbound.reader.source.bytes = bytes.drop consumed ∧
    consumed = 24 + payload.length ∧ length ≤ payload.length ∧
    ∃ (header : Header) (outbound : Outbound),
      Frame.write message version network limits ⟨.unbounded, records⟩ =
        .ok (24 + length) outbound ∧
      outbound.sink.taken = header.encode ++ payload.take length ∧
      header.magic = network.magic ∧ header.command.text = Message.command message ∧
      header.length.toNat = length ∧ header.checksum = Checksum.of (payload.take length) ∧
      (outbound.sink.taken = bytes.take consumed ↔ consumed - 24 = length) := by
  obtain ⟨frame, rest, trailing, valid, hbytes, hrest, hconsumed, hcommand, hpayload⟩ :=
    eq_of_read_ofBytes h
  have hlen := frame.length_encode
  have htake : bytes.take frame.encode.length = frame.encode := by rw [hbytes, List.take_left]
  have hdrop : frame.encode.drop 24 = frame.payload := List.drop_left' frame.header.length_encode
  have hfront : frame.payload.take message.inventory.encodedLength =
      message.inventory.encoding := by
    rw [hpayload, ← Inventory.length_encoding, List.take_left]
  have hfits : message.inventory.encodedLength ≤ frame.payload.length := by
    rw [hpayload, List.length_append, Inventory.length_encoding]
    exact Nat.le_add_right ..
  have hlimit : message.inventory.encodedLength ≤ limits.maxPayloadBytes := by
    apply Nat.le_trans hfits
    rw [valid.length]
    exact valid.within
  have htaken := Stream.Sink.taken_unbounded (message.frame network).encode
  obtain ⟨after, hwrite⟩ := write_unbounded version network ⟨.unbounded, records⟩
    Stream.Sink.unbounded_unbounded hlimit
  rw [length_frame] at hwrite
  dsimp only
  rw [hconsumed, htake, hdrop, hfront]
  refine ⟨?_, ?_, hlen, hfits, (message.frame network).header, _, hwrite, ?_, rfl,
    message.kind.text_wireCommand, ?_, rfl, ?_⟩
  · rw [hbytes, List.length_append]
    exact Nat.le_add_right ..
  · rw [hrest, hbytes, List.drop_left]
  · exact htaken
  · exact (Frame.length_forPayload message.length_encoding_lt).trans
      message.inventory.length_encoding
  · dsimp only
    rw [htaken, frame_eq valid hcommand hpayload, hlen, Nat.add_sub_cancel_left]

/-- A frame with an announcement of one transaction and a byte too much: it is accepted, and the
byte is not passed on. -/
theorem relay_without_trailing :
    let hash : Bytes := List.replicate 32 0xAB
    let bytes : Bytes := [0xFA, 0xBF, 0xB5, 0xDA, 0x69, 0x6E, 0x76, 0, 0, 0, 0, 0, 0, 0, 0, 0,
      38, 0, 0, 0, 0x39, 0x88, 0x26, 0x54, 1, 1, 0, 0, 0] ++ hash ++ [0x2A]
    ∃ message inbound outbound,
      read .current .regtest .small ⟨.ofBytes bytes, []⟩ = .ok message inbound ∧
      message.inventory.toList = [⟨.tx, ⟨⟨hash, rfl⟩⟩⟩] ∧ inbound.reader.bytesRead = 62 ∧
      Frame.write message .current .regtest .small ⟨.unbounded, []⟩ = .ok 61 outbound ∧
      outbound.sink.taken ≠ bytes.take 62 := by
  intro hash bytes
  let message : InventoryMessage := ⟨.inv, ⟨⟨#[⟨.tx, ⟨⟨hash, rfl⟩⟩⟩], by decide⟩⟩⟩
  have hcanonical : message.canonical = message := by
    apply message.canonical_eq_self.mpr
    intro item hitem
    obtain rfl := List.mem_singleton.mp hitem
    exact (Item.canonical_eq_self _).mp rfl
  have hbytes : (Frame.forPayload .regtest MessageKind.inv.wireCommand
      (message.inventory.encoding ++ [0x2A])).encode ++ [] = bytes := by decide +kernel
  have hahead := Decoder.ahead_ofBytes bytes []
  rw [← hbytes] at hahead
  obtain ⟨log, hread⟩ := @read_valid message .regtest .small _ [0x2A] .current _ _ _
    (Frame.valid_forPayload (by decide) (by decide)) (by decide) rfl (by decide) hahead
  rw [hbytes, Inbound.skip_zero, hcanonical] at hread
  obtain ⟨-, -, -, -, _, outbound, hwrite, -, -, -, -, -, hsame⟩ := relay hread []
  have hmore : ¬ 62 - 24 = 37 := by decide
  exact ⟨_, _, outbound, hread, rfl, rfl, hwrite, fun h => hmore (hsame.mp h)⟩

end Gossip.InventoryMessage
