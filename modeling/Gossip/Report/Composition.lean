import Gossip.Report.Basic

/-! The composition of a frame from a command and items. -/
namespace Gossip

/-- The bytes of a frame with a message that goes by the command and carries the items. -/
def compose (command : String) (items : Array Item) (network : Network)
    (version : ProtocolVersion) : Job Bytes := fun log =>
  match Inventory.ofArray items with
  | .error error => .error (.during "build inventory list" (.capacity error)) log
  | .ok inventory =>
    match MessageKind.ofCommand? command with
    | none => .error (.ofCause (.otherCommand command)) log
    | some kind =>
      let message : InventoryMessage := ⟨kind, ⟨inventory⟩⟩
      match Frame.write message version network .standard ⟨.unbounded, log⟩ with
      | .error error outbound =>
        .error (.during s!"encode {Message.command message} message" (.encoding error)) outbound.log
      | .ok written outbound =>
        let entry : Log.Record :=
          ⟨.debug, .tools, s!"framed {command} with {items.size} items ({written} bytes)"⟩
        .ok outbound.sink.taken (outbound.log ++ [entry])

end Gossip
