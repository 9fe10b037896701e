import Gossip.Frame.Codec

/-! Writing to a sink that takes everything.

Such a sink stays what it is when bytes are written to it, and what it has taken grows by those
bytes (`grown`). So a list of fields that is written to it comes out as one byte string. -/
namespace Gossip.Stream

theorem Intake.offer_all (bytes : Bytes) :
    (Intake.script []).offer bytes = ⟨bytes, none, .script []⟩ := by
  cases bytes <;> rfl

namespace Sink

/-- Nothing stands in the way of what is written. -/
def Unbounded (sink : Sink) : Prop := sink.intake = .script []

/-- The sink when it has taken these bytes too. -/
def grown (sink : Sink) (bytes : Bytes) : Sink :=
  {sink with reversed := bytes.reverseAux sink.reversed}

theorem unbounded_unbounded : Unbounded .unbounded := rfl

variable {sink : Sink}

theorem Unbounded.grown (h : Unbounded sink) (bytes : Bytes) : Unbounded (sink.grown bytes) := h

@[simp] theorem grown_grown (sink : Sink) (a b : Bytes) :
    (sink.grown a).grown b = sink.grown (a ++ b) := by
  simp [Sink.grown, List.reverseAux_eq]

@[simp] theorem taken_grown (sink : Sink) (bytes : Bytes) :
    (sink.grown bytes).taken = sink.taken ++ bytes := by
  simp [Sink.grown, taken, List.reverseAux_eq]

theorem taken_unbounded (bytes : Bytes) : (unbounded.grown bytes).taken = bytes :=
  taken_grown ..

theorem writeAll_unbounded (h : Unbounded sink) (bytes : Bytes) :
    sink.writeAll bytes = (none, sink.grown bytes) := by
  obtain ⟨intake, flushFailure, reversed⟩ := sink
  cases h
  simp only [writeAll, Intake.offer_all, Sink.grown]

end Sink

/-- One field is written whole. -/
theorem Writer.field_unbounded {writer : Writer} (h : writer.sink.Unbounded) (bytes : Bytes) :
    field bytes writer =
      .ok () ⟨writer.sink.grown bytes, writer.bytesWritten + bytes.length⟩ := by
  simp only [field, Sink.writeAll_unbounded h]

/-- Fields are written one behind the other. -/
theorem Writer.fields_unbounded {writer : Writer} (h : writer.sink.Unbounded)
    (list : List Bytes) :
    fields list writer = .ok ()
      ⟨writer.sink.grown list.flatten, writer.bytesWritten + list.flatten.length⟩ := by
  induction list generalizing writer with
  | nil => rfl
  | cons bytes rest ih =>
    have hrest : Sink.Unbounded (Writer.sink ⟨writer.sink.grown bytes,
        writer.bytesWritten + bytes.length⟩) := h.grown bytes
    simp only [fields, field_unbounded h, ih hrest]
    simp [Nat.add_assoc]

end Gossip.Stream

namespace Gossip

theorem Encoder.fields_unbounded {writer : Stream.Writer} (h : writer.sink.Unbounded)
    (list : List Bytes) :
    fields list writer = .ok ()
      ⟨writer.sink.grown list.flatten, writer.bytesWritten + list.flatten.length⟩ := by
  simp only [fields, Stream.Writer.fields_unbounded h]

end Gossip
