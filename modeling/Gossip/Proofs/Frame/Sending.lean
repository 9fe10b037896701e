import Gossip.Proofs.Frame.Contract
import Gossip.Proofs.Stream.Offering

/-! Sending a frame to any sink.

Everything that can be wrong with a message is found before the first byte goes out. After that only
the sink decides: the frame goes out whole, or the failure that lay ahead of the sink is met and a
front of the frame has gone out (`Sent`). `write_to_any_sink` says so of every message and every
sink, and that an interrupted call makes no difference to what is sent. -/
namespace Gossip

namespace Outbound

/-- The sink without the interrupted calls, and the same records. -/
def calm (outbound : Outbound) : Outbound := {outbound with sink := outbound.sink.calm}

/-- What is seen of a sink: what it has taken, and the records. -/
def sight (outbound : Outbound) : Bytes × Log := (outbound.sink.taken, outbound.log)

end Outbound

namespace Frame

/-- What writing a frame comes to once it has begun. -/
inductive Sent (before : Outbound) (frame : Bytes) :
    EStateM.Result EncodeError Outbound Nat → Prop where
  /-- The sink has taken the frame and nothing else. -/
  | whole {after : Outbound} : after.sink.taken = before.sink.taken ++ frame →
    Sent before frame (.ok frame.length after)
  /-- The sink has failed, which an interrupted call is not, and has taken a front of the frame but
  not all of it. -/
  | part {after : Outbound} {taken missing : Bytes} {fault : Stream.Fault} :
    before.sink.intake.failure? = some fault → fault.kind ≠ .interrupted →
    after.sink.taken = before.sink.taken ++ taken → frame = taken ++ missing → missing ≠ [] →
    Sent before frame (.error (.transport fault) after)

variable {M : Type} [Message M] {message : M} {version : ProtocolVersion} {network : Network}
  {limits : Limits} {command : Command} {payload : Bytes}

theorem sent_write (outbound : Outbound)
    (hcommand : Command.ofText? (Message.command message) = some command)
    (hpayload : Message.payload message version = .ok payload)
    (hl : payload.length ≤ limits.maxPayloadBytes) :
    Sent outbound (forPayload network command payload).encode
      (write message version network limits outbound) := by
  obtain ⟨offer, htakes, hends⟩ := Stream.Writer.fields_takes
    ((Header.forPayload network command payload).fields ++ [payload]) ⟨outbound.sink, 0⟩
  rw [flatten_fields] at htakes hends
  simp only [write, hcommand, hpayload, if_neg (Nat.not_lt_of_le hl), Encoder.fields]
  generalize Stream.Writer.fields _ _ = result at hends
  cases hends with
  | all hnone =>
    cases htakes with
    | all _ =>
      rw [Nat.zero_add]
      exact .whole (Stream.Sink.taken_after ..)
    | part _ _ _ => cases hnone
  | part hsome =>
    cases htakes with
    | all _ => cases hsome
    | part hfault hbytes hmissing =>
      cases hsome
      exact .part hfault (Stream.Intake.kind_of_failure? hfault) (Stream.Sink.taken_after ..)
        hbytes hmissing

/-- Where no failure lies ahead, the frame goes out whole. -/
theorem Sent.ok {before : Outbound} {frame : Bytes}
    {result : EStateM.Result EncodeError Outbound Nat} (h : Sent before frame result)
    (hnone : before.sink.intake.failure? = none) :
    ∃ after, result = .ok frame.length after := by
  cases h with
  | whole _ => exact ⟨_, rfl⟩
  | part hfault _ _ _ _ =>
    rw [hnone] at hfault
    cases hfault

/-- Without the interrupted calls a message is written as it is with them. -/
theorem write_calm (message : M) (version : ProtocolVersion) (network : Network) (limits : Limits) :
    Respects (fun a b => b = Outbound.calm a) (write message version network limits) := by
  rintro outbound _ rfl
  simp only [write]
  cases Command.ofText? (Message.command message) with
  | none => exact .error rfl
  | some command =>
    dsimp only
    cases Message.payload message version with
    | error error => exact .error rfl
    | ok payload =>
      dsimp only
      by_cases hl : limits.maxPayloadBytes < payload.length
      · rw [if_pos hl, if_pos hl]
        exact .error rfl
      · rw [if_neg hl, if_neg hl]
        generalize (Header.forPayload network command payload).fields ++ [payload] = list
        have hfields := Encoder.respects_fields list ⟨outbound.sink, 0⟩
          ⟨outbound.calm.sink, 0⟩ rfl
        generalize Encoder.fields list ⟨outbound.sink, 0⟩ = x,
          Encoder.fields list ⟨outbound.calm.sink, 0⟩ = y at hfields
        cases hfields with
        | ok hsink =>
          cases hsink
          exact .ok rfl
        | error hsink =>
          cases hsink
          exact .error rfl

/-- **Writing to any sink.** A message whose command is none, which does not encode, or whose payload
is longer than the message or the limits allow, leaves the sink alone. Any other is sent as one
frame, whole or up to a failure of the sink; short writes and interrupted calls are no failures, and
the latter do not even show in what is taken. -/
theorem write_to_any_sink {M : Type} [Message M] (message : M) (version : ProtocolVersion)
    (network : Network) (limits : Limits) (outbound : Outbound) :
    (match Command.ofText? (Message.command message) with
      | none => write message version network limits outbound =
          .error (.invalidCommand (Message.command message)) outbound
      | some command =>
        match Message.encode message version Stream.Writer.inMemory with
        | .error error _ => write message version network limits outbound = .error error outbound
        | .ok () writer =>
          let payload := writer.sink.taken
          let max := (Message.maxPayloadLength message version).toNat
          if max < payload.length then
            write message version network limits outbound =
              .error (.overLimit .messagePayload max payload.length) outbound
          else if limits.maxPayloadBytes < payload.length then
            write message version network limits outbound =
              .error (.overLimit .payloadBytes limits.maxPayloadBytes payload.length) outbound
          else
            let frame := (forPayload network command payload).encode
            Sent outbound frame (write message version network limits outbound) ∧
              (outbound.sink.intake.failure? = none →
                ∃ after, write message version network limits outbound =
                  .ok frame.length after)) ∧
    seen Outbound.sight (write message version network limits outbound) =
      seen Outbound.sight (write message version network limits outbound.calm) := by
  constructor
  · cases hcommand : Command.ofText? (Message.command message) with
    | none => exact write_invalid_command hcommand
    | some command =>
      cases hencode : Message.encode message version Stream.Writer.inMemory with
      | error error writer =>
        have hpayload : Message.payload message version = .error error := by
          rw [Message.payload, hencode]
        exact write_no_payload hcommand hpayload
      | ok _ writer =>
        have hbound := Message.payload_of_encodes ⟨writer, hencode, rfl⟩
        dsimp only
        by_cases hmax : (Message.maxPayloadLength message version).toNat <
            writer.sink.taken.length
        · rw [if_pos hmax]
          exact write_no_payload hcommand (hbound.trans (if_pos hmax))
        have hpayload := hbound.trans (if_neg hmax)
        rw [if_neg hmax]
        by_cases hl : limits.maxPayloadBytes < writer.sink.taken.length
        · rw [if_pos hl]
          exact write_over_limit hcommand hpayload hl
        · rw [if_neg hl]
          have hsent : Sent outbound (forPayload network command writer.sink.taken).encode _ :=
            sent_write outbound hcommand hpayload (Nat.le_of_not_lt hl)
          exact ⟨hsent, hsent.ok⟩
  · apply (write_calm message version network limits outbound outbound.calm rfl).seen_eq
    rintro after _ rfl
    rfl

end Frame
end Gossip
