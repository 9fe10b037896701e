import Gossip.Main
import Gossip.Proofs.LittleEndian
import Gossip.Proofs.CompactSize
import Gossip.Proofs.Respects
import Gossip.Proofs.Stream.Reading
import Gossip.Proofs.Stream.Likeness
import Gossip.Proofs.Stream.Script
import Gossip.Proofs.Stream.Writing
import Gossip.Proofs.Stream.Offering
import Gossip.Proofs.Frame.Command
import Gossip.Proofs.Frame.Decoding
import Gossip.Proofs.Frame.Header
import Gossip.Proofs.Frame.Acceptance
import Gossip.Proofs.Frame.Message
import Gossip.Proofs.Frame.Contract
import Gossip.Proofs.Frame.Sending
import Gossip.Proofs.Frame.Delivery
import Gossip.Proofs.Frame.Settling
import Gossip.Proofs.Inventory.Items
import Gossip.Proofs.Inventory.Acceptance
import Gossip.Proofs.Inventory.Message
import Gossip.Proofs.Inventory.Exchange
import Gossip.Proofs.Inventory.Uniqueness
import Gossip.Proofs.Inventory.Delivery
import Gossip.Proofs.Inventory.Carrier
import Gossip.Proofs.Inventory.Failure
import Gossip.Proofs.Inventory.Counting
import Gossip.Proofs.Inventory.Dispatch
import Gossip.Proofs.Inventory.Replacement
import Gossip.Proofs.Inventory.Bound
import Gossip.Proofs.Stream.Accounting
import Gossip.Proofs.Inventory.Entries
import Gossip.Proofs.Report.Summary
import Gossip.Proofs.Report.Agreement
import Gossip.Proofs.Report.Composition
import Gossip.Proofs.Inventory.Ledger
import Gossip.Proofs.Hex
import Gossip.Proofs.Inventory.JsonForm
import Gossip.Proofs.Stream.Canonical
import Gossip.Proofs.Stream.Chunks
import Gossip.Proofs.Stream.Passage
import Gossip.Proofs.Inventory.Encoding
import Gossip.Proofs.Inventory.Growth
import Gossip.Proofs.Inventory.Sizes
import Gossip.Proofs.Frame.CommandForms
import Gossip.Proofs.Frame.HeaderLayout
import Gossip.Proofs.Report.TranscriptText
import Gossip.Proofs.Frame.Records
import Gossip.Proofs.Inventory.Records
import Gossip.Proofs.Order
import Gossip.Proofs.CommandLine.Directory
import Gossip.Proofs.Stream.Storage
import Gossip.Proofs.Frame.Storage
