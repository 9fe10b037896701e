import Gossip.Inventory.Dispatch
import Gossip.Proofs.Frame.Delivery
import Gossip.Proofs.Inventory.Carrier

/-! Messages, and how the transport delivers.

`InventoryMessage.delivery_unseen` is the result for every way in which the program reads: from
scripts of single fields to messages in their frames, what is seen depends on the bytes that a
source delivers and on nothing else. -/
namespace Gossip
open Gossip.Stream (Source Request)

/-! ### Inventories -/

theorem Item.respects_read {ahead : Nat} (version : ProtocolVersion) :
    Respects (Stream.Reader.Alike ahead) (read version) := by
  refine Stream.Reader.respects_u32.bind fun tag => ?_
  exact (Stream.Reader.respects_octets 32).bind fun hash => .pure _

namespace Inventory
variable {ahead : Nat} (context : String) (version : ProtocolVersion)

/-- By induction on the number of items that are still to be read. -/
theorem respects_readItems (announced count : Nat) (inventory : Inventory) :
    Respects (Inbound.Alike ahead) (readItems context version announced count inventory) := by
  induction count generalizing inventory with
  | zero => exact .pure _
  | succ count ih =>
    rw [readItems_succ]
    refine (Decoder.respects_field (Item.respects_read version)).bind fun item => ?_
    cases push context inventory item with
    | error full => exact .throw _
    | ok grown => exact ih grown

theorem respects_decodeFor :
    Respects (Inbound.Alike ahead) (decodeFor context version) := by
  refine (Decoder.respects_field Stream.Reader.respects_compactSize).bind fun count => ?_
  exact .ite (Decoder.respects_reject _ _ _) (respects_readItems _ _ _ _ _)

end Inventory

/-! ### Messages -/

namespace Message
variable {M : Type}

/-- What is seen of a message and of the stream that it is decoded from. -/
def sight (state : M × Inbound) : M × Nat × Bytes × Log := (state.1, state.2.sight)

theorem sight_eq {a b : M × Inbound} (h : Paired (Inbound.Alike 0) a b) : sight a = sight b := by
  rw [sight, sight, h.1, h.2.sight_eq]

/-- Decoding into a message comes to the same on two sources, whatever the message held and whatever
was read and recorded before, and leaves the same message and the same to be seen. -/
def SeesAlike (M : Type) [Message M] (a b : Source) : Prop :=
  ∀ version (message : M) before log,
    seen sight (decode version (message, ⟨⟨a, before⟩, log⟩)) =
      seen sight (decode version (message, ⟨⟨b, before⟩, log⟩))

/-- A message whose decoder respects likeness sees nothing of how the transport delivers. -/
theorem seesAlike [Message M]
    (hd : ∀ version, Respects (Paired (Inbound.Alike 0)) (decode (M := M) version))
    {source : Source} {bytes : Bytes} (h : source.Delivers bytes) :
    SeesAlike M source (.ofBytes bytes) := by
  intro version message before log
  have hdecode := hd version (message, ⟨⟨source, before⟩, log⟩)
    (message, ⟨⟨.ofBytes bytes, before⟩, log⟩) ⟨rfl, h.inbound before log⟩
  exact hdecode.seen_eq fun _ _ => sight_eq

end Message

/-- Decoding into a message respects likeness as reading its inventory does. -/
theorem Carrier.respects_decode {ahead : Nat} {M : Type} [Message M] (carrier : Carrier M)
    (version : ProtocolVersion) :
    Respects (Paired (Inbound.Alike ahead)) (Message.decode (M := M) version) := by
  rintro ⟨message, a⟩ ⟨_, b⟩ ⟨rfl, hab⟩
  have hdecode := Inventory.respects_decodeFor ((carrier.kind message).name ++ "::decode") version
    a b hab
  rw [carrier.decode_eq, carrier.decode_eq]
  generalize Inventory.decodeFor _ version a = x, Inventory.decodeFor _ version b = y
    at hdecode ⊢
  cases hdecode with
  | ok hab => exact .ok ⟨rfl, hab⟩
  | error hab => exact .error ⟨rfl, hab⟩

theorem InventoryOf.respects_decode {ahead : Nat} {kind : MessageKind} (version : ProtocolVersion) :
    Respects (Paired (Inbound.Alike ahead)) (Message.decode (M := InventoryOf kind) version) :=
  (Carrier.ofKind kind).respects_decode version

namespace InventoryMessage
variable {ahead : Nat} (version : ProtocolVersion)

theorem respects_decode :
    Respects (Paired (Inbound.Alike ahead)) (Message.decode (M := InventoryMessage) version) :=
  Carrier.ofAnyKind.respects_decode version

theorem respects_read (network : Network) (limits : Limits) :
    Respects (Inbound.Alike ahead) (read version network limits) := by
  intro a b hab
  have hframe := Frame.respects_read network limits a b hab
  simp only [read]
  generalize Frame.read network limits a = x, Frame.read network limits b = y at hframe
  cases hframe with
  | error hab => exact .error hab
  | @ok frame a b hab =>
    obtain ⟨hreader, hlog⟩ := hab
    simp only [hlog]
    cases ofFrame frame version b.log with
    | ok message log => exact .ok ⟨hreader, rfl⟩
    | error error log => exact .error ⟨hreader, rfl⟩

end InventoryMessage

/-! ### All that reads -/

/-- **The pieces in which a source delivers a byte string are not seen.** Every decoder, every
message and every script of requests comes to the same as on the byte string in one piece, with the
same count, the same bytes unread and the same records; and to a script it makes no difference
whether one reader serves all its steps or each has its own. -/
theorem InventoryMessage.delivery_unseen {source : Source} {bytes : Bytes}
    (h : source.Delivers bytes) :
    (∀ version network limits,
      (read version network limits).SeesAlike source (.ofBytes bytes)) ∧
    (∀ network limits, (Frame.read network limits).SeesAlike source (.ofBytes bytes)) ∧
    Header.decode.SeesAlike source (.ofBytes bytes) ∧
    (∀ version, (Inventory.decode version).SeesAlike source (.ofBytes bytes)) ∧
    (∀ kind, Message.SeesAlike (InventoryOf kind) source (.ofBytes bytes)) ∧
    Message.SeesAlike InventoryMessage source (.ofBytes bytes) ∧
    (∀ requests buffer before, Request.run requests (buffer, ⟨source, before⟩) =
      Request.run requests (buffer, ⟨.ofBytes bytes, before⟩)) ∧
    ∀ requests buffer before, Request.run requests (buffer, ⟨source, before⟩) =
      Request.runApart before requests (buffer, source) := by
  refine ⟨?messages, ?frames, ?headers, ?inventories, ?ofKind, ?ofAnyKind, ?scripts, ?apart⟩
  case messages =>
    intro version network limits
    exact Decoder.seesAlike (respects_read version network limits) h
  case frames =>
    intro network limits
    exact Decoder.seesAlike (Frame.respects_read network limits) h
  case headers => exact Decoder.seesAlike Header.respects_decode h
  case inventories =>
    intro version
    exact Decoder.seesAlike (Inventory.respects_decodeFor _ version) h
  case ofKind =>
    intro kind
    exact Message.seesAlike InventoryOf.respects_decode h
  case ofAnyKind => exact Message.seesAlike respects_decode h
  case scripts =>
    intro requests buffer before
    exact Request.run_delivers h requests buffer before
  case apart =>
    intro requests buffer before
    exact Request.run_eq_runApart requests buffer ⟨source, before⟩ (.refl source)

/-- A compact size of three bytes, in two pieces, and two interrupted calls. -/
def trickle : Source :=
  [.fault ⟨.interrupted, "call interrupted"⟩, .data [0xFD, 0x03],
    .fault ⟨.interrupted, "call interrupted"⟩, .data [0x02]]

theorem InventoryMessage.delivery_unseen_trickle :
    trickle.Delivers [0xFD, 0x03, 0x02] ∧
      Request.run [.compactSize, .u8] ([], ⟨trickle, 0⟩) =
        [(.ok (.u64 515), ⟨[], 3, []⟩), (.error (.endOfStream 1 0), ⟨[], 3, []⟩)] := by
  have h : trickle.Delivers [0xFD, 0x03, 0x02] :=
    .interrupted rfl (.piece (by decide) (.interrupted rfl (.piece (by decide) .nil)))
  obtain ⟨-, -, -, -, -, -, hscripts, -⟩ := InventoryMessage.delivery_unseen h
  refine ⟨h, ?_⟩
  rw [hscripts]
  rfl

end Gossip
