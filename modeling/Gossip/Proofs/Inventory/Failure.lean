import Gossip.Proofs.Frame.Settling
import Gossip.Proofs.Inventory.Carrier

/-! Messages, and transports that fail.

`InventoryMessage.failure_shown` is the result for every way in which the program reads from a
stream: a fault of the transport is reported exactly where the end of the stream would have been
reported as bytes missing, and nowhere else, and it changes nothing that was consumed. -/
namespace Gossip
open Gossip.Stream (Source)

/-! ### Inventories -/

theorem Item.settles_read (version : ProtocolVersion) :
    (Decoder.field (read version)).Settles := by
  apply Decoder.settles_of_front size
  · intro bytes hl
    obtain ⟨item, rest, rfl, -⟩ := exists_front hl
    exact ⟨item.canonical, fun _ h => read_front version h⟩
  · intro bytes hl
    by_cases h4 : bytes.length < 4
    · refine ⟨4, bytes.length, fun start h => ?_⟩
      rw [read_short version h hl, cut, if_pos h4]
    · refine ⟨32, bytes.length - 4, fun start h => ?_⟩
      rw [read_short version h hl, cut, if_neg h4]

namespace Inventory
variable (context : String) (version : ProtocolVersion)

/-- By induction on the number of items that are still to be read. -/
theorem settles_readItems (announced count : Nat) (inventory : Inventory) :
    (readItems context version announced count inventory).Settles := by
  induction count generalizing inventory with
  | zero => exact Decoder.settles_pure inventory
  | succ count ih =>
    rw [readItems_succ]
    refine (Item.settles_read version).bind fun item => ?_
    cases push context inventory item with
    | error full => exact Decoder.settles_throw (by simp)
    | ok grown => exact ih grown

theorem settles_decodeFor : (decodeFor context version).Settles := by
  refine Decoder.settles_compactSize.bind fun count => ?_
  split
  · exact Decoder.settles_reject _ _ (by simp)
  · exact settles_readItems _ _ _ _ _

end Inventory

/-! ### Messages -/

/-- What is true of reading the inventory of a message is true of decoding into the message, which
is the same on both sides. -/
theorem Carrier.severed {M : Type} [Message M] (carrier : Carrier M) {message : M}
    {version : ProtocolVersion} {fault : Stream.Fault} {R : Inbound → Inbound → Prop}
    {a b : Inbound}
    (h : Severed fault R
      (Inventory.decodeFor ((carrier.kind message).name ++ "::decode") version a)
      (Inventory.decodeFor ((carrier.kind message).name ++ "::decode") version b)) :
    Severed fault (Paired R) (Message.decode version (message, a))
      (Message.decode version (message, b)) := by
  rw [carrier.decode_eq, carrier.decode_eq]
  generalize Inventory.decodeFor _ version a = x, Inventory.decodeFor _ version b = y at h ⊢
  cases h with
  | ok hab => exact .ok ⟨rfl, hab⟩
  | error hne hab => exact .error hne ⟨rfl, hab⟩
  | truncated hab => exact .truncated ⟨rfl, hab⟩

/-! ### All that reads -/

/-- **A fault of the transport is neither hidden nor taken for anything else.** On a source that
delivers a byte string and breaks off with a fault, frames, inventories and messages come to the
same as on one that delivers it and ends, unless bytes are wanting there; then the fault is reported
in their place, or the end of the stream if that is what the fault says. The same bytes have been
consumed in any case. -/
theorem InventoryMessage.failure_shown {ended broken : Source} {bytes : Bytes}
    (hended : ended.Delivers bytes) (hbroken : broken.Delivers bytes) {fault : Stream.Fault}
    (hfault : fault.kind ≠ .interrupted) (rest : Source) (before : Nat) (log : Log) :
    let a : Inbound := ⟨⟨ended, before⟩, log⟩
    let b : Inbound := ⟨⟨broken ++ .fault fault :: rest, before⟩, log⟩
    (∀ network limits, Severed fault (Inbound.Abreast rest) (Frame.read network limits a)
      (Frame.read network limits b)) ∧
    (∀ version, Severed fault (Inbound.Abreast rest) (Inventory.decode version a)
      (Inventory.decode version b)) ∧
    (∀ version kind (message : InventoryOf kind), Severed fault (Paired (Inbound.Abreast rest))
      (Message.decode version (message, a)) (Message.decode version (message, b))) ∧
    (∀ version (message : InventoryMessage), Severed fault (Paired (Inbound.Abreast rest))
      (Message.decode version (message, a)) (Message.decode version (message, b))) := by
  intro a b
  have hinventory (context : String) (version : ProtocolVersion) :
      Severed fault (Inbound.Abreast rest) (Inventory.decodeFor context version a)
        (Inventory.decodeFor context version b) :=
    (Inventory.settles_decodeFor context version bytes).severed hended hbroken hfault rest
      before log
  refine ⟨?frames, ?inventories, ?ofKind, ?ofAnyKind⟩
  case frames =>
    intro network limits
    exact (Frame.settles_read network limits bytes).severed hended hbroken hfault rest before log
  case inventories => exact hinventory "InventoryList::decode"
  case ofKind =>
    intro version kind message
    exact (Carrier.ofKind kind).severed (hinventory _ version)
  case ofAnyKind =>
    intro version message
    exact Carrier.ofAnyKind.severed (hinventory _ version)

/-- A request for two objects is lost a byte into the hash of the second: with the connection reset
there, the request reports that, and stays as it was. -/
theorem InventoryMessage.failure_shown_reset :
    let first : Bytes := 2 :: List.replicate 36 0
    let second : Bytes := [1, 0, 0, 0, 7]
    let broken : Source := [.data first, .fault ⟨.interrupted, "call interrupted"⟩, .data second]
    let reset : Stream.Fault := ⟨.connectionReset, "connection reset by peer"⟩
    let request : InventoryMessage := ⟨.getData, .empty⟩
    let ended : Source := .ofBytes (first ++ second)
    ended.Delivers (first ++ second) ∧ broken.Delivers (first ++ second) ∧
    reset.kind ≠ .interrupted ∧
    (∃ a, Message.decode .current (request, ⟨⟨ended, 0⟩, []⟩) =
      .error (.truncated 32 1) (request, a)) ∧
    ∃ b, Message.decode .current (request, ⟨⟨broken ++ [.fault reset, .data [8]], 0⟩, []⟩) =
        .error (.transport reset) (request, b) ∧
      b.reader.bytesRead = 42 ∧ b.reader.source.bytes = [8] := by
  intro first second broken reset request ended
  have hended : ended.Delivers (first ++ second) := .piece (by decide) .nil
  have hbroken : broken.Delivers (first ++ second) :=
    .piece (by decide) (.interrupted rfl (.piece (by decide) .nil))
  have hreset : reset.kind ≠ .interrupted := by decide
  have htruncated : Message.decode .current (request, ⟨⟨ended, 0⟩, []⟩) =
      .error (.truncated 32 1) (request, ⟨⟨[], 42⟩, []⟩) := rfl
  obtain ⟨-, -, -, hmessage⟩ :=
    failure_shown hended hbroken hreset [.data [8]] 0 []
  have hsevered := hmessage .current request
  rw [htruncated] at hsevered
  refine ⟨hended, hbroken, hreset, ⟨_, htruncated⟩, ?_⟩
  generalize Message.decode .current (request, ⟨⟨broken ++ _, 0⟩, []⟩) = result at hsevered ⊢
  cases hsevered with
  | error hne _ => exact absurd rfl (hne 32 1)
  | @truncated _ _ _ t habreast =>
    obtain ⟨message, b⟩ := t
    obtain ⟨hsame, hread, hunread, -⟩ := habreast
    cases hsame
    exact ⟨b, rfl, hread, hunread⟩

end Gossip
