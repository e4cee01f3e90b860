import PacketDivert.Proofs.Netlink.MessageReading
import PacketDivert.Session.Verdict

namespace PacketDivert

open Netlink (Attribute AttributeError BoundQueue ConntrackKind Kernel KernelVerdict Message
  PacketChange PacketKind VerdictRequest align)

/-- What the kernel does with a packet itself. -/
def Verdict.kernel : Verdict → KernelVerdict
  | .accept | .acceptModify | .acceptStream => .accept
  | .drop | .dropStream => .drop

/-- The attribute that every verdict begins with. -/
def Verdict.header (verdict : Verdict) (id : UInt32) : Attribute where
  kind := PacketKind.verdictHeader.code
  nested := false
  data := Bytes.be32 verdict.kernel.code ++ Bytes.be32 id

/-- New bytes for a packet, as an attribute. -/
def payloadAttribute (bytes : Bytes) : Attribute where
  kind := PacketKind.payload.code
  nested := false
  data := bytes

/-- An attribute that gives the connection of a packet a mark, and does nothing else to it. -/
def Marks (mark : UInt32) (addition : Attribute) : Prop :=
  addition.kind = PacketKind.conntrack.code ∧ addition.nested = true ∧
    Attribute.parse addition.data =
      .ok [{ kind := ConntrackKind.mark.code, nested := false, data := Bytes.be32 mark }]

namespace VerdictHandle

variable (handle : VerdictHandle) (id : UInt32) (replacement : Option Bytes) (verdict : Verdict)

/-- A verdict on a packet of the handle's own session is one message for the socket, which alone
decides whether it is sent. -/
theorem setVerdict_calls (packet : Packet) (own : packet.session = handle.session)
    (bound : BoundQueue) :
    let refused := bound.kernel.sendsRefused.head?.join
    let message := Message.encode .verdict Message.requestFlag (bound.queue.sequence + 1)
      bound.queue.number (handle.request packet.id replacement verdict).encode
    let after := handle.setVerdict packet verdict replacement bound
    after.1 = (Kernel.outcome refused).mapError .transport ∧
      after.2.kernel.calls = bound.kernel.calls ++ [.send message refused] := by
  intro refused message after
  have sent : after = (Transport.send (handle.request packet.id replacement verdict)
      |>.mapError Error.transport) bound := by
    simp only [after, setVerdict, own, ↓reduceIte]
  rw [sent, Attempt.mapError_run]
  obtain ⟨result, calls⟩ := BoundQueue.send_calls .verdict Message.requestFlag
    (handle.request packet.id replacement verdict).encode bound
  exact ⟨congrArg (Except.mapError Error.transport) result, calls⟩

end VerdictHandle

end PacketDivert
