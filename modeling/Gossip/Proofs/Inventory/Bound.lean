import Gossip.Inventory.Dispatch
import Gossip.Inventory.JsonForm
import Gossip.Proofs.Inventory.Replacement

/-! The bound on inventories, over whole runs.

Inventories are made in many ways (`Making`), alone or inside of messages, and what is made can be
changed (`Change`), copied and dropped. Each way keeps the bound by a check of its own, or has
nothing to check. So the bound holds after any run (`Operation.bounded_run`), and the checks that
come after, those of adding what is read and of encoding, never find it broken
(`Inventory.bound_kept`). -/
namespace Gossip

/-! ### What is held -/

/-- An inventory by itself, or a message with one. -/
inductive Holder where
  | alone (inventory : Inventory)
  | ofKind (kind : MessageKind) (message : InventoryOf kind)
  | ofAnyKind (message : InventoryMessage)

namespace Holder

def inventory : Holder → Inventory
  | alone inventory => inventory
  | ofKind _ message => message.inventory
  | ofAnyKind message => message.inventory

/-- The items in order. -/
def items (holder : Holder) : List Item := holder.inventory.toList

def encode (version : ProtocolVersion) : Holder → Encoder Unit
  | alone inventory => inventory.encode version
  | ofKind _ message => Message.encode message version
  | ofAnyKind message => Message.encode message version

end Holder

/-! ### What makes it -/

/-- The value of a computation that succeeds. -/
def given? {ε σ α : Type} : EStateM.Result ε σ α → Option α
  | .ok value _ => some value
  | .error _ _ => none

/-- The ways to make an inventory or a message with one. -/
inductive Making where
  | empty
  | withCapacity (capacity : Nat)
  | ofArray (items : Array Item)
  | decode (version : ProtocolVersion) (inbound : Inbound)
  | ofJson (json : Json)
  | emptyOfKind (kind : MessageKind)
  | ofKindOfJson (kind : MessageKind) (json : Json)
  | emptyOf (command : String)
  | ofFrame (version : ProtocolVersion) (frame : Frame) (log : Log)
  | read (version : ProtocolVersion) (network : Network) (limits : Limits) (inbound : Inbound)
  | ofAnyKindOfJson (json : Json)

/-- What is made, if it is. -/
def Making.make? : Making → Option Holder
  | empty => some (.alone .empty)
  | withCapacity capacity => some (.alone (.withCapacity capacity))
  | ofArray items => .alone <$> (Inventory.ofArray items).toOption
  | decode version inbound => .alone <$> given? (Inventory.decode version inbound)
  | ofJson json => .alone <$> Inventory.ofJson? json
  | emptyOfKind kind => some (.ofKind kind .empty)
  | ofKindOfJson kind json => .ofKind kind <$> InventoryOf.ofJson? json
  | emptyOf command => .ofAnyKind <$> (InventoryMessage.empty command).toOption
  | ofFrame version frame log => .ofAnyKind <$> given? (InventoryMessage.ofFrame frame version log)
  | read version network limits inbound =>
    .ofAnyKind <$> given? (InventoryMessage.read version network limits inbound)
  | ofAnyKindOfJson json => .ofAnyKind <$> InventoryMessage.ofJson? json

/-! ### What changes it -/

/-- What can be done to an inventory or a message. -/
inductive Change where
  | append (item : Item)
  | decode (version : ProtocolVersion) (inbound : Inbound)
  | decodeInto (version : ProtocolVersion) (frame : Frame) (log : Log)
  /-- Makes a message of a kind of an inventory. -/
  | wrap (kind : MessageKind)
  /-- Takes the inventory out of a message of a kind. -/
  | unwrap
  /-- Makes a message of any kind of one of a kind. -/
  | enclose
  /-- Takes the message of its kind out of a message of any kind. -/
  | disclose

/-- What is left after a change, whether it succeeds or fails. A change that is not for what is
there, as decoding into an inventory by itself, does nothing. -/
def Change.apply : Change → Holder → Holder
  | append item, .alone inventory =>
    match inventory.append item with
    | .ok grown => .alone grown
    | .error _ => .alone inventory
  | append item, .ofKind kind message =>
    match message.append item with
    | .ok grown => .ofKind kind grown
    | .error _ => .ofKind kind message
  | decode version inbound, .ofKind kind message =>
    .ofKind kind (endState (Message.decode version (message, inbound))).1
  | decode version inbound, .ofAnyKind message =>
    .ofAnyKind (endState (Message.decode version (message, inbound))).1
  | decodeInto version frame log, .ofKind kind message =>
    .ofKind kind (endState (frame.decodeInto version (message, log))).1
  | decodeInto version frame log, .ofAnyKind message =>
    .ofAnyKind (endState (frame.decodeInto version (message, log))).1
  | wrap kind, .alone inventory => .ofKind kind ⟨inventory⟩
  | unwrap, .ofKind _ message => .alone message.inventory
  | enclose, .ofKind kind message => .ofAnyKind ⟨kind, message⟩
  | disclose, .ofAnyKind message => .ofKind message.kind message.content
  | _, holder => holder

/-! ### Runs -/

inductive Operation where
  | make (making : Making)
  | alter (place : Nat) (change : Change)
  | copy (place : Nat)
  | drop (place : Nat)

namespace Operation

/-- What is held after an operation. -/
def perform (held : List Holder) : Operation → List Holder
  | make making => held ++ making.make?.toList
  | alter place change =>
    match held[place]? with
    | some holder => held.set place (change.apply holder)
    | none => held
  | copy place => held ++ held[place]?.toList
  | drop place => held.eraseIdx place

/-- What is held after a series of operations. -/
def run (held : List Holder) : List Operation → List Holder
  | [] => held
  | operation :: operations => run (operation.perform held) operations

end Operation

/-! ### The checks -/

namespace Inventory
variable {inventory : Inventory}

theorem size_le_of_push {context : String} {item : Item} {grown : Inventory}
    (h : push context inventory item = .ok grown) : grown.size ≤ maxItems := by
  obtain ⟨room, hsize⟩ := size_of_push h
  rw [hsize]
  exact room

theorem size_of_ofArray {items : Array Item} (h : ofArray items = .ok inventory) :
    inventory.size ≤ maxItems := by
  unfold ofArray at h
  split at h
  · cases h
    assumption
  · cases h

theorem size_of_ofJson? {json : Json} (h : ofJson? json = some inventory) :
    inventory.size ≤ maxItems := by
  unfold ofJson? at h
  split at h
  · obtain ⟨items, -, h⟩ := Option.bind_eq_some_iff.mp h
    split at h
    · cases h
      exact size_of_ofArray ‹_›
    · cases h
  · cases h

theorem size_of_decodeFor {context : String} {version : ProtocolVersion} {inbound after : Inbound}
    (h : decodeFor context version inbound = .ok inventory after) : inventory.size ≤ maxItems := by
  obtain ⟨count, counted, -, hfits, hsize⟩ := decodeFor_ok h
  rw [hsize]
  exact hfits

theorem size_of_ofBytes? {bytes : Bytes} (h : ofBytes? bytes = some inventory) :
    inventory.size ≤ maxItems := by
  unfold ofBytes? at h
  split at h
  · obtain ⟨-, h⟩ := Option.ite_none_right_eq_some.mp h
    cases h
    exact size_of_decodeFor ‹_›
  · cases h

end Inventory

theorem InventoryOf.size_of_append {kind : MessageKind} {message grown : InventoryOf kind}
    {item : Item} (h : message.append item = .ok grown) : grown.inventory.size ≤ maxItems := by
  unfold append at h
  cases hpush : Inventory.push (kind.name ++ "::add_inv_vect") message.inventory item with
  | ok inventory =>
    rw [hpush] at h
    cases h
    exact Inventory.size_le_of_push hpush
  | error full =>
    rw [hpush] at h
    cases h

theorem InventoryOf.size_of_ofJson? {kind : MessageKind} {message : InventoryOf kind} {json : Json}
    (h : ofJson? json = some message) : message.inventory.size ≤ maxItems := by
  unfold ofJson? at h
  split at h
  · obtain ⟨inventory, hinventory, rfl⟩ := Option.map_eq_some_iff.mp h
    exact Inventory.size_of_ofJson? hinventory
  · cases h

/-! ### The checks of messages -/

theorem eq_ok_of_toOption {ε α : Type} {result : Except ε α} {value : α}
    (h : result.toOption = some value) : result = .ok value := by
  cases result with
  | ok value =>
    cases h
    rfl
  | error error => cases h

theorem given?_eq_some {ε σ α : Type} {result : EStateM.Result ε σ α} {value : α}
    (h : given? result = some value) : ∃ after, result = .ok value after := by
  cases result with
  | ok value after =>
    cases h
    exact ⟨after, rfl⟩
  | error error after => cases h

/-- Decoding that replaces all or nothing keeps the bound. -/
theorem Replaces.size_le {M σ : Type} [Message M] {kind : M → MessageKind}
    {inventory : M → Inventory} {fits : M → Prop} {reads : σ → Bytes → Prop}
    {decode : M → EStateM.Result DecodeError (M × σ) Unit}
    (h : Replaces kind inventory fits reads decode) {message : M}
    (hfits : (inventory message).size ≤ maxItems) :
    (inventory (endState (decode message)).1).size ≤ maxItems := by
  cases hrun : decode message with
  | ok value state =>
    obtain ⟨-, -, -, bytes, -, hbytes⟩ := h.ok hrun
    exact Inventory.size_of_ofBytes? hbytes
  | error error state =>
    rw [endState, h.error hrun]
    exact hfits

namespace InventoryMessage
variable {version : ProtocolVersion} {message : InventoryMessage}

theorem size_of_ofFrame {frame : Frame} {log after : Log}
    (h : ofFrame frame version log = .ok message after) : message.inventory.size ≤ maxItems := by
  obtain ⟨start, records, -, hinto⟩ := decodeInto_of_ofFrame h
  obtain ⟨-, -, -, bytes, -, hbytes⟩ :=
    (Carrier.ofAnyKind.replaces_frame version frame log).ok hinto
  exact Inventory.size_of_ofBytes? hbytes

theorem size_of_read {network : Network} {limits : Limits} {inbound after : Inbound}
    (h : read version network limits inbound = .ok message after) :
    message.inventory.size ≤ maxItems := by
  obtain ⟨frame, state, records, -, hdecode, -⟩ := ofFrame_of_read h
  exact size_of_ofFrame hdecode

theorem size_of_ofJson? {json : Json} (h : ofJson? json = some message) :
    message.inventory.size ≤ maxItems := by
  unfold ofJson? at h
  split at h
  · obtain ⟨kind, -, h⟩ := Option.bind_eq_some_iff.mp h
    obtain ⟨content, hcontent, h⟩ := Option.bind_eq_some_iff.mp h
    cases h
    exact InventoryOf.size_of_ofJson? hcontent
  · cases h

theorem size_of_empty {command : String} (h : empty command = .ok message) :
    message.inventory.size ≤ maxItems := by
  unfold empty at h
  split at h
  · cases h
    exact Nat.zero_le maxItems
  · cases h

end InventoryMessage

/-! ### Every operation keeps the bound -/

theorem Making.size_le {making : Making} {holder : Holder} (h : making.make? = some holder) :
    holder.inventory.size ≤ maxItems := by
  cases making with
  | empty =>
    cases h
    exact Nat.zero_le maxItems
  | withCapacity capacity =>
    cases h
    exact Nat.le_trans (Nat.le_of_eq (Inventory.size_withCapacity capacity)) (Nat.zero_le maxItems)
  | ofArray items =>
    obtain ⟨inventory, hmade, rfl⟩ := Option.map_eq_some_iff.mp h
    exact Inventory.size_of_ofArray (eq_ok_of_toOption hmade)
  | decode version inbound =>
    obtain ⟨inventory, hmade, rfl⟩ := Option.map_eq_some_iff.mp h
    obtain ⟨after, hread⟩ := given?_eq_some hmade
    exact Inventory.size_of_decodeFor hread
  | ofJson json =>
    obtain ⟨inventory, hmade, rfl⟩ := Option.map_eq_some_iff.mp h
    exact Inventory.size_of_ofJson? hmade
  | emptyOfKind kind =>
    cases h
    exact Nat.zero_le maxItems
  | ofKindOfJson kind json =>
    obtain ⟨message, hmade, rfl⟩ := Option.map_eq_some_iff.mp h
    exact InventoryOf.size_of_ofJson? hmade
  | emptyOf command =>
    obtain ⟨message, hmade, rfl⟩ := Option.map_eq_some_iff.mp h
    exact InventoryMessage.size_of_empty (eq_ok_of_toOption hmade)
  | ofFrame version frame log =>
    obtain ⟨message, hmade, rfl⟩ := Option.map_eq_some_iff.mp h
    obtain ⟨after, hdecoded⟩ := given?_eq_some hmade
    exact InventoryMessage.size_of_ofFrame hdecoded
  | read version network limits inbound =>
    obtain ⟨message, hmade, rfl⟩ := Option.map_eq_some_iff.mp h
    obtain ⟨after, hread⟩ := given?_eq_some hmade
    exact InventoryMessage.size_of_read hread
  | ofAnyKindOfJson json =>
    obtain ⟨message, hmade, rfl⟩ := Option.map_eq_some_iff.mp h
    exact InventoryMessage.size_of_ofJson? hmade

theorem Change.size_le {holder : Holder} (change : Change)
    (h : holder.inventory.size ≤ maxItems) :
    (change.apply holder).inventory.size ≤ maxItems := by
  cases change with
  | append item =>
    cases holder with
    | alone inventory =>
      simp only [apply]
      split
      · exact Inventory.size_le_of_push ‹_›
      · exact h
    | ofKind kind message =>
      simp only [apply]
      split
      · exact InventoryOf.size_of_append ‹_›
      · exact h
    | ofAnyKind message => exact h
  | decode version inbound =>
    cases holder with
    | alone inventory => exact h
    | ofKind kind message => exact ((Carrier.ofKind kind).replaces_stream version inbound).size_le h
    | ofAnyKind message => exact (Carrier.ofAnyKind.replaces_stream version inbound).size_le h
  | decodeInto version frame log =>
    cases holder with
    | alone inventory => exact h
    | ofKind kind message =>
      exact ((Carrier.ofKind kind).replaces_frame version frame log).size_le h
    | ofAnyKind message => exact (Carrier.ofAnyKind.replaces_frame version frame log).size_le h
  | wrap kind => cases holder <;> exact h
  | unwrap => cases holder <;> exact h
  | enclose => cases holder <;> exact h
  | disclose => cases holder <;> exact h

/-- What is held keeps the bound. -/
def Bounded (held : List Holder) : Prop := ∀ holder ∈ held, holder.inventory.size ≤ maxItems

namespace Operation

theorem bounded_perform {held : List Holder} (h : Bounded held) (operation : Operation) :
    Bounded (operation.perform held) := by
  intro holder hholder
  cases operation with
  | make making =>
    rcases List.mem_append.mp hholder with hold | hnew
    · exact h holder hold
    · exact Making.size_le (Option.mem_toList.mp hnew)
  | alter place change =>
    simp only [perform] at hholder
    split at hholder
    · rename_i before hbefore
      rcases List.mem_or_eq_of_mem_set hholder with hold | rfl
      · exact h holder hold
      · exact change.size_le (h before (List.mem_of_getElem? hbefore))
    · exact h holder hholder
  | copy place =>
    rcases List.mem_append.mp hholder with hold | hcopy
    · exact h holder hold
    · exact h holder (List.mem_of_getElem? (Option.mem_toList.mp hcopy))
  | drop place => exact h holder (List.mem_of_mem_eraseIdx hholder)

theorem bounded_run {held : List Holder} (h : Bounded held) (operations : List Operation) :
    Bounded (run held operations) := by
  induction operations generalizing held with
  | nil => exact h
  | cons operation operations ih => exact ih (bounded_perform h operation)

end Operation

/-! ### The checks that find nothing -/

theorem EncodeError.ofStream_eq (cause : Stream.Error) :
    ∃ fault, ofStream cause = .transport fault := by
  cases cause <;> exact ⟨_, rfl⟩

/-- Writing fields fails only as the sink fails. -/
theorem Encoder.fields_error {parts : List Bytes} {writer after : Stream.Writer}
    {error : EncodeError} (h : fields parts writer = .error error after) :
    ∃ fault, error = .transport fault := by
  simp only [fields] at h
  split at h
  · cases h
  · cases h
    exact EncodeError.ofStream_eq _

/-- An inventory within the bound is encoded, whatever becomes of its fields. -/
theorem Inventory.encodeFor_eq {inventory : Inventory} (h : inventory.size ≤ maxItems)
    (context : String) (version : ProtocolVersion) :
    inventory.encodeFor context version = Encoder.fields inventory.fields :=
  if_neg (Nat.not_lt_of_le h)

theorem Holder.encode_eq {holder : Holder} (h : holder.inventory.size ≤ maxItems)
    (version : ProtocolVersion) :
    holder.encode version = Encoder.fields holder.inventory.fields := by
  cases holder <;> exact Inventory.encodeFor_eq h _ version

/-- **No run breaks the bound**, and no check after the first finds it broken: an inventory is
encoded unless its fields cannot be written, and it is decoded unless a field cannot be read or its
count is too large. -/
theorem Inventory.bound_kept (operations : List Operation) :
    (∀ holder ∈ Operation.run [] operations, holder.items.length ≤ 50000 ∧
      ∀ version writer error after, holder.encode version writer = .error error after →
        ∃ fault, error = .transport fault) ∧
    ∀ context version inbound error after,
      decodeFor context version inbound = .error error after →
        (∃ cause, error = .ofStream cause) ∨ CountRefused context inbound after error := by
  have hbounded : Bounded (Operation.run [] operations) :=
    Operation.bounded_run (by simp [Bounded]) operations
  refine ⟨?held, fun _ _ _ _ _ => decodeFor_error⟩
  case held =>
    intro holder hholder
    have hsize := hbounded holder hholder
    refine ⟨?_, ?_⟩
    · rw [Holder.items, length_toList]
      exact hsize
    · intro version writer error after h
      rw [Holder.encode_eq hsize] at h
      exact Encoder.fields_error h

/-- An item is added, a request is made of it, and a payload that breaks off leaves it alone. -/
example (item : Item) :
    (Operation.run [] [.make .empty, .alter 0 (.append item), .alter 0 (.wrap .getData),
      .alter 0 (.decode .current ⟨.ofBytes [2, 1, 0], []⟩)]).map Holder.items = [[item]] := rfl

end Gossip
