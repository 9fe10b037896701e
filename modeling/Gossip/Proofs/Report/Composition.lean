import Gossip.Proofs.Inventory.Exchange
import Gossip.Proofs.Report.Agreement
import Gossip.Proofs.Report.ItemSpec
import Gossip.Report.Composition

/-! From items as people write them to a frame, and back.

The items that are read from specifications are canonical: the kinds that have a name are given by
it, whether the name or the tag was written. So what is composed of them is decoded as it was given
(`Transcript.of_composed`), and the only compositions that fail are those of too many items and
those under other commands. -/
namespace Gossip

/-! ### Items that are read from specifications -/

namespace ItemSpec

/-- By induction on the specifications, each of which is read on its own. -/
theorem canonical_of_mapM_parse {specs : List String} {items : List Item}
    (h : specs.mapM parse = .ok items) :
    items.length = specs.length ∧ ∀ item ∈ items, item.canonical = item := by
  induction specs generalizing items with
  | nil =>
    cases h
    exact ⟨rfl, fun _ hitem => (List.not_mem_nil hitem).elim⟩
  | cons spec specs ih =>
    rw [List.mapM_cons] at h
    cases hitem : parse spec with
    | error failure =>
      rw [hitem] at h
      cases h
    | ok item =>
      cases hrest : specs.mapM parse with
      | error failure =>
        rw [hitem, hrest] at h
        cases h
      | ok rest =>
        rw [hitem, hrest] at h
        cases h
        obtain ⟨hlength, hcanonical⟩ := ih hrest
        exact ⟨congrArg (· + 1) hlength,
          List.forall_mem_cons.mpr ⟨canonical_of_parse hitem, hcanonical⟩⟩

end ItemSpec

/-! ### Composing -/

section
variable {command : String} {items : Array Item} (network : Network) (version : ProtocolVersion)

theorem compose_gives_tooMany (h : maxItems < items.size) :
    Gives (compose command items network version)
      (.error (.during "build inventory list"
        (.capacity ⟨"InventoryList::try_from", maxItems⟩))) := by
  intro log
  have hfull : Inventory.ofArray items = .error _ := dif_neg (Nat.not_le_of_lt h)
  simp only [compose, hfull]
  rfl

theorem compose_gives_other (h : items.size ≤ maxItems)
    (hcommand : MessageKind.Unused command) :
    Gives (compose command items network version) (.error (.ofCause (.otherCommand command))) := by
  intro log
  have hfits : Inventory.ofArray items = .ok _ := dif_pos h
  simp only [compose, hfits, MessageKind.ofCommand?_eq_none.mpr hcommand]
  rfl

/-- The standard limits leave room for every inventory. -/
theorem Inventory.encodedLength_le_standard (inventory : Inventory) :
    inventory.encodedLength ≤ Limits.standard.maxPayloadBytes :=
  Nat.le_trans (InventoryMessage.encodedLength_le .current inventory) (by decide)

/-- What is composed is the frame of the message. -/
theorem compose_gives_frame (message : InventoryMessage) :
    Gives (compose message.kind.command message.inventory.items network version)
      (.ok (message.frame network).encode) := by
  intro log
  have hfits : Inventory.ofArray message.inventory.items = .ok message.inventory :=
    dif_pos message.inventory.size_le
  have hmessage : InventoryMessage.mk message.kind ⟨message.inventory⟩ = message := rfl
  obtain ⟨after, hwrite⟩ := InventoryMessage.write_unbounded version network ⟨.unbounded, log⟩
    Stream.Sink.unbounded_unbounded message.inventory.encodedLength_le_standard
  simp only [compose, hfits, MessageKind.ofCommand?_command, hmessage, hwrite]
  exact congrArg Except.ok (Stream.Sink.taken_unbounded _)

end

/-! ### There and back -/

namespace Transcript

/-- The frame of a message is decoded as the message, whatever follows it. -/
theorem gives_frame (network : Network) (version : ProtocolVersion) {message : InventoryMessage}
    (hcanonical : message.canonical = message) (rest : Bytes) :
    Gives (ofBytes ((message.frame network).encode ++ rest) network .standard version)
      (.ok ((message.frame network).transcript network message)) := by
  have valid : (message.frame network).Valid network .standard :=
    InventoryMessage.valid_frame message.inventory.encodedLength_le_standard
  have hread := Frame.yields_front valid rest
  have hdecode : Gives (InventoryMessage.ofFrame (message.frame network) version)
      (.ok message) := by
    intro log
    have hpayload : (message.frame network).payload = message.inventory.encoding ++ [] :=
      (List.append_nil _).symm
    have hl : (message.frame network).payload.length ≤ 1800009 := by
      rw [hpayload, List.append_nil, Inventory.length_encoding]
      exact InventoryMessage.encodedLength_le version message.inventory
    obtain ⟨after, hrun⟩ := InventoryMessage.ofFrame_front version log
      (message.command_frame network) hpayload hl
    rw [hrun, hcanonical]
    rfl
  exact gives_ofFrame hread hdecode

/-- **What is composed of items that were read from specifications is decoded as it was given**, on
the same network and within the standard limits, whichever versions are spoken. Too many items are
not composed, and nothing is under any other command. -/
theorem of_composed (network : Network) (version version' : ProtocolVersion) :
    (∀ (kind : MessageKind) (command : String) (specs : List String) (items : List Item),
      kind.GoesBy command → specs.mapM ItemSpec.parse = .ok items → specs.length ≤ 50000 →
      (∀ item ∈ items, ∀ tag, item.type = .unknown tag → ¬ ObjectType.IsNamed tag) ∧
      ∃ bytes transcript,
        Gives (compose command items.toArray network version) (.ok bytes) ∧
        Gives (ofBytes bytes network .standard version') (.ok transcript) ∧
        transcript.network = network ∧ transcript.command.text = command ∧
        transcript.payloadLength =
          CompactSize.size (UInt64.ofNat specs.length) + 36 * specs.length ∧
        transcript.message.kind = kind ∧ transcript.message.inventory.toList = items) ∧
    ∀ (command : String) (items : Array Item),
      (50000 < items.size → Gives (compose command items network version)
        (.error (.during "build inventory list"
          (.capacity ⟨"InventoryList::try_from", 50000⟩)))) ∧
      (items.size ≤ 50000 → MessageKind.Unused command →
        Gives (compose command items network version)
          (.error (.ofCause (.otherCommand command)))) := by
  refine ⟨fun kind command specs items hcommand hparse hsize => ?_, fun command items =>
    ⟨compose_gives_tooMany network version, compose_gives_other network version⟩⟩
  obtain rfl := MessageKind.goesBy_iff.mp hcommand
  obtain ⟨hlength, hcanonical⟩ := ItemSpec.canonical_of_mapM_parse hparse
  have hfits : items.toArray.size ≤ maxItems := by
    rw [← hlength] at hsize
    exact hsize
  let message : InventoryMessage := ⟨kind, ⟨⟨items.toArray, hfits⟩⟩⟩
  have hmessage : message.canonical = message :=
    (InventoryMessage.canonical_eq_self message).mpr fun item hitem =>
      item.canonical_eq_self.mp (hcanonical item hitem)
  have hdecode := gives_frame network version' hmessage []
  rw [List.append_nil] at hdecode
  refine ⟨fun item hitem => item.canonical_eq_self.mp (hcanonical item hitem), _, _,
    compose_gives_frame network version message, hdecode, rfl, kind.text_wireCommand, ?_, rfl, rfl⟩
  show message.inventory.encoding.length = _
  rw [Inventory.length_encoding, Nat.mul_comm, ← hlength]
  rfl

/-- A request for a block, given by the name of its kind, and for a block with its witnesses, given
by a tag. -/
theorem of_composed_request :
    let specs := ["block:000000000019d6689c085ae165831e934ff763ae46a2a6c172b3f1b60a8ce26f",
      "0x40000002:000000000019d6689c085ae165831e934ff763ae46a2a6c172b3f1b60a8ce26f"]
    ∃ items, specs.mapM ItemSpec.parse = .ok items ∧
      items.map Item.type = [.block, .witnessBlock] ∧
      ∃ bytes transcript,
        Gives (compose "getdata" items.toArray .mainnet .current) (.ok bytes) ∧
        Gives (ofBytes bytes .mainnet .standard .current) (.ok transcript) ∧
        transcript.payloadLength = 73 ∧ transcript.message.inventory.toList = items := by
  intro specs
  obtain ⟨items, hparse, htypes⟩ : ∃ items, specs.mapM ItemSpec.parse = .ok items ∧
      items.map Item.type = [.block, .witnessBlock] := ⟨_, rfl, rfl⟩
  obtain ⟨-, bytes, transcript, hcompose, hdecode, -, -, hlength, -, hitems⟩ :=
    (of_composed .mainnet .current .current).1 .getData "getdata" specs items .getData hparse
      (by decide)
  exact ⟨items, hparse, htypes, bytes, transcript, hcompose, hdecode, hlength, hitems⟩

end Transcript

end Gossip
