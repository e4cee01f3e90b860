import PacketDivert.Proofs.Netlink.MessageReading
import PacketDivert.Proofs.Netlink.MessageSequences

namespace PacketDivert.Netlink

/-- A packet as it is written for a queue, and what pads it to a multiple of four. Its length has to
have 32 bits. -/
structure PacketMessage where
  flags : UInt16
  sequence : UInt32
  queue : UInt16
  attributes : Bytes
  padding : Bytes
  short : 20 + attributes.length < 0x100000000
  padded : 20 + attributes.length + padding.length = align (20 + attributes.length)

namespace PacketMessage

def encode (packet : PacketMessage) : Bytes :=
  Message.encode .packet packet.flags packet.sequence packet.queue packet.attributes

def encodeAll : List PacketMessage → Bytes
  | [] => []
  | packet :: packets => packet.encode ++ packet.padding ++ encodeAll packets

/-- A packet is a message whose body names the queue in front of the attributes. -/
theorem exists_write (packet : PacketMessage) :
    ∃ body, packet.encode =
        Message.write MessageKind.packet.code packet.flags packet.sequence 0 body ∧
      16 + body.length = 20 + packet.attributes.length := by
  refine ⟨_, Message.encode_eq_write _ _ _ _ _, ?_⟩
  simp only [List.length_append, List.length_cons, List.length_nil, Bytes.length_be16]
  omega

theorem sequence_encodeAll (packets : List PacketMessage) :
    Message.Sequence (encodeAll packets) := by
  induction packets with
  | nil => exact .nothing
  | cons packet packets inductionHypothesis =>
    obtain ⟨body, written, length⟩ := packet.exists_write
    have short := packet.short
    have padded := packet.padded
    rw [← length] at short padded
    rw [encodeAll, written]
    exact .message _ _ _ _ short padded inductionHypothesis

/-- What is read of the front of a packet. -/
theorem ofFrames_take (packet : PacketMessage) {kept : Nat} (missing : kept < packet.encode.length)
    (offset : Nat) :
    PacketReport.ofFrames (Message.framesAt offset (packet.encode.take kept)) =
      if kept < 16 then .ok []
      else .error (Message.badLength offset packet.encode.length) := by
  have length : (packet.encode.take kept).length = kept := List.length_take_of_le missing.le
  by_cases headless : kept < 16
  · rw [Message.framesAt_of_spent offset (length.trans_lt headless), if_pos headless,
      PacketReport.ofFrames]
  · have whole : packet.encode.length = 20 + packet.attributes.length :=
      Message.length_encode ..
    have given : Message.declared (packet.encode.take kept) = packet.encode.length := by
      have word : Bytes.word32At packet.encode 0 = UInt32.ofNat (20 + packet.attributes.length) :=
        Bytes.word32_le32 _
      rw [Message.declared, Bytes.word32At_take _ (by omega), word, whole, UInt32.toNat_ofNat',
        Nat.mod_eq_of_lt packet.short]
    have broken : ¬Message.Stands (packet.encode.take kept) := by
      rw [Message.Stands, given, length]
      omega
    rw [Message.framesAt_of_broken offset (by omega) broken, given, if_neg headless,
      PacketReport.ofFrames]

end PacketMessage

/-- What is read of packets of which the last one is cut short. If at least its header is left, the
cut is an error. If not, what is left of it is passed over, and the others are all that is read. -/
theorem cut_packets_read (before : List PacketMessage) (last : PacketMessage) {kept : Nat}
    (missing : kept < last.encode.length) :
    let front := PacketMessage.encodeAll before
    let datagram := front ++ last.encode.take kept
    (PacketReport.ofDatagram datagram =
      match PacketReport.ofDatagram front with
      | .error fault => .error fault
      | .ok reports =>
        if kept < 16 then .ok reports
        else .error (Message.badLength front.length last.encode.length)) ∧
    ((∃ fault, PacketReport.ofDatagram datagram = .error fault) ↔
      16 ≤ kept ∨ ∃ fault, PacketReport.ofDatagram front = .error fault) := by
  intro front datagram
  have joined : PacketReport.ofDatagram datagram =
      match PacketReport.ofDatagram front with
      | .error fault => .error fault
      | .ok reports =>
        (PacketReport.ofFrames (Message.framesAt front.length (last.encode.take kept))).map
          (reports ++ ·) :=
    PacketReport.ofDatagram_append (PacketMessage.sequence_encodeAll before) _
  rw [joined, last.ofFrames_take missing]
  cases PacketReport.ofDatagram front with
  | error fault => exact ⟨rfl, fun _ => .inr ⟨fault, rfl⟩, fun _ => ⟨fault, rfl⟩⟩
  | ok reports =>
    dsimp only
    by_cases headless : kept < 16
    · rw [if_pos headless, if_pos headless, Except.map, List.append_nil]
      refine ⟨rfl, ?_, ?_⟩
      · rintro ⟨fault, failed⟩
        exact nomatch failed
      · rintro (headed | ⟨fault, failed⟩)
        · omega
        · exact nomatch failed
    · rw [if_neg headless, if_neg headless]
      exact ⟨rfl, fun _ => .inl (by omega), fun _ => ⟨_, rfl⟩⟩

/-- A packet of which nothing but its id is known. -/
def shortPacket : PacketMessage where
  flags := 0
  sequence := 0
  queue := 100
  attributes := Record.encodeAll [⟨PacketKind.packetHeader.code, Bytes.be32 5⟩]
  padding := []
  short := by decide
  padded := by decide

theorem ofDatagram_shortPacket :
    PacketReport.ofDatagram (PacketMessage.encodeAll [shortPacket]) = .ok [{ id := some 5 }] := by
  have made : PacketReport.MadeOf { id := some 5 }
      [⟨PacketKind.packetHeader.code, Bytes.be32 5⟩] := ⟨⟨[], rfl⟩, rfl, rfl⟩
  have fits : ∀ record ∈ [(⟨PacketKind.packetHeader.code, Bytes.be32 5⟩ : Record)],
      record.Fits := by
    intro record member
    rw [List.mem_singleton.mp member]
    exact Nat.le_of_ble_eq_true rfl
  have conveys : Conveys (shortPacket.encode ++ []) [{ id := some 5 }] :=
    .last (.packet 0 0 100 made fits shortPacket.short) (le_align _)
  exact conveys.ofFrames 0

/-- A cut behind the header is an error. -/
theorem cut_packets_read_body :
    20 < shortPacket.encode.length ∧
      PacketReport.ofDatagram
          (PacketMessage.encodeAll [shortPacket] ++ shortPacket.encode.take 20) =
        .error (Message.badLength 28 28) := by
  have missing : 20 < shortPacket.encode.length := by decide
  obtain ⟨read, -⟩ := cut_packets_read [shortPacket] shortPacket missing
  rw [ofDatagram_shortPacket] at read
  exact ⟨missing, read⟩

/-- Of a second packet the header is there but for its last byte, and nothing is said about it: what
is read is the first packet, and no error. -/
theorem cut_header_unreported :
    let front := PacketMessage.encodeAll [shortPacket]
    let datagram := front ++ shortPacket.encode.take 15
    15 < shortPacket.encode.length ∧
      PacketReport.ofDatagram (front ++ shortPacket.encode) =
        .ok [{ id := some 5 }, { id := some 5 }] ∧
      PacketReport.ofDatagram datagram = .ok [{ id := some 5 }] ∧
      ¬∃ fault, PacketReport.ofDatagram datagram = .error fault := by
  intro front datagram
  have missing : 15 < shortPacket.encode.length := by decide
  have complete := PacketMessage.sequence_encodeAll [shortPacket]
  have both : PacketReport.ofDatagram (front ++ shortPacket.encode) =
      .ok [{ id := some 5 }, { id := some 5 }] := by
    have second : PacketReport.ofFrames (Message.framesAt front.length shortPacket.encode) =
        .ok [{ id := some 5 }] := PacketReport.ofFrames_framesAt ofDatagram_shortPacket _
    rw [PacketReport.ofDatagram_append complete, ofDatagram_shortPacket]
    dsimp only
    rw [second]
    rfl
  have one : PacketReport.ofDatagram datagram = .ok [{ id := some 5 }] := by
    rw [PacketReport.ofDatagram_append complete, ofDatagram_shortPacket]
    dsimp only
    rw [shortPacket.ofFrames_take missing]
    rfl
  refine ⟨missing, both, one, ?_⟩
  rintro ⟨fault, failed⟩
  exact nomatch one.symm.trans failed

end PacketDivert.Netlink
