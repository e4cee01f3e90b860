import PacketDivert.Netlink.Queue
import PacketDivert.Proofs.Netlink.AttributeCodec

namespace PacketDivert.Netlink

namespace Message

theorem length_encode (kind : MessageKind) (flags : UInt16) (sequence : UInt32) (queue : UInt16)
    (attributes : Bytes) :
    (encode kind flags sequence queue attributes).length = 20 + attributes.length := by
  simp only [encode, List.length_append, Bytes.length_le32, Bytes.length_le16, Bytes.length_be16,
    List.length_cons, List.length_nil]

end Message

/-- Sending hands one message to the socket, and the socket alone decides the result. -/
theorem BoundQueue.send_calls (kind : MessageKind) (flags : UInt16) (attributes : Bytes)
    (bound : BoundQueue) :
    let refused := bound.kernel.sendsRefused.head?.join
    let message :=
      Message.encode kind flags (bound.queue.sequence + 1) bound.queue.number attributes
    (send kind flags attributes bound).1 = Kernel.outcome refused ∧
      (send kind flags attributes bound).2.kernel.calls =
        bound.kernel.calls ++ [.send message refused] := ⟨rfl, rfl⟩

theorem Attribute.ofWritten_packet (kind : PacketKind) (data : Bytes) :
    ofWritten kind.code data = { kind := kind.code, nested := false, data } := by
  cases kind <;> rfl

namespace PacketChange

/-- The entry that gives a connection its mark. -/
def markEntry (value : UInt32) : Bytes :=
  Attribute.encode ConntrackKind.mark.code (Bytes.be32 value)

theorem length_markEntry (value : UInt32) : (markEntry value).length = 8 := by
  rw [markEntry, Attribute.length_encode, Bytes.length_be32]
  rfl

theorem parse_markEntry (value : UInt32) :
    Attribute.parse (markEntry value) =
      .ok [{ kind := ConntrackKind.mark.code, nested := false, data := Bytes.be32 value }] :=
  Attribute.parseAt_encode_last 0 _ (by rw [Bytes.length_be32]; decide)

/-- Whether a record has room for a change. -/
def Fits : PacketChange → Prop
  | .payload bytes => bytes.length ≤ 65531
  | _ => True

/-- The attributes that a change is read as, if a record has room for it. -/
def attributes : PacketChange → List Attribute
  | .none => []
  | .payload bytes => [{ kind := PacketKind.payload.code, nested := false, data := bytes }]
  | .mark value =>
    [{ kind := PacketKind.conntrack.code, nested := true, data := markEntry value }]

theorem parseAt_encode (offset : Nat) {change : PacketChange} (fits : change.Fits) :
    Attribute.parseAt offset change.encode = .ok change.attributes := by
  cases change with
  | none => rw [encode, Attribute.parseAt, attributes]
  | payload bytes =>
    rw [encode, Attribute.parseAt_encode_last offset _ fits, Attribute.ofWritten_packet, attributes]
  | mark value =>
    have short : (markEntry value).length ≤ 65531 := by rw [length_markEntry]; decide
    exact Attribute.parseAt_encode_last offset _ short

end PacketChange

namespace VerdictRequest

/-- The attribute that a request begins with. -/
def header (request : VerdictRequest) : Attribute where
  kind := PacketKind.verdictHeader.code
  nested := false
  data := Bytes.be32 request.verdict.code ++ Bytes.be32 request.id

theorem length_header (request : VerdictRequest) : request.header.data.length = 8 := rfl

theorem length_encode (request : VerdictRequest) :
    request.encode.length = 12 + request.change.encode.length := by
  have eight := request.length_header
  rw [encode, List.length_append, Attribute.length_encode]
  unfold header at eight
  rw [eight]
  rfl

/-- A request is read as its header, and then what its change is read as. -/
theorem parse_encode (request : VerdictRequest) :
    Attribute.parse request.encode =
      (Attribute.parseAt 12 request.change.encode).map (request.header :: ·) := by
  have eight := request.length_header
  have fits : request.header.data.length ≤ 65531 := by rw [eight]; decide
  have read := Attribute.parseAt_encode_of_le 0 PacketKind.verdictHeader.code fits
    request.change.encode
  rw [Attribute.length_encode, eight, Attribute.ofWritten_packet] at read
  exact read

theorem parse_encode_of_fits {request : VerdictRequest} (fits : request.change.Fits) :
    Attribute.parse request.encode = .ok (request.header :: request.change.attributes) := by
  rw [parse_encode, PacketChange.parseAt_encode 12 fits]
  rfl

end VerdictRequest

end PacketDivert.Netlink
