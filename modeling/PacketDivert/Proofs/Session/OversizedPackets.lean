import PacketDivert.Proofs.Session.VerdictMessages

namespace PacketDivert

open Netlink (Attribute AttributeError BoundQueue Kernel Message PacketChange PacketKind
  VerdictRequest align)

/-- How a verdict is read whose new bytes have no room in their record, of whose length only 16 bits
are written. If those stand for less than a header, nothing is read at all. Otherwise the first
bytes are taken for the whole, and the others for attributes of the verdict. -/
def oversizedReading (header : Attribute) (bytes : Bytes) :
    Except AttributeError (List Attribute) :=
  let length := Attribute.writtenLength bytes
  if length < 4 then .error (.badLength 12 length)
  else
    (Attribute.parseAt (12 + align length)
        (bytes.drop (align length - 4) ++ Attribute.padding bytes)).map
      fun others => header :: payloadAttribute (bytes.take (length - 4)) :: others

theorem parse_modified_of_gt {request : VerdictRequest} {bytes : Bytes}
    (modifies : request.change = .payload bytes) (oversized : 65531 < bytes.length) :
    Attribute.parse request.encode = oversizedReading request.header bytes := by
  have record := Attribute.parseAt_encode_of_gt 12 PacketKind.payload.code oversized []
  rw [List.append_nil, List.append_nil] at record
  rw [request.parse_encode, modifies, PacketChange.encode, record, Attribute.ofWritten_packet]
  unfold oversizedReading
  by_cases short : Attribute.writtenLength bytes < 4
  · simp only [short, ↓reduceIte]
    rfl
  · simp only [short, ↓reduceIte]
    cases Attribute.parseAt (12 + align (Attribute.writtenLength bytes))
      (bytes.drop (align (Attribute.writtenLength bytes) - 4) ++ Attribute.padding bytes) <;> rfl

/-- The new bytes are never read as the whole that they are. -/
theorem oversizedReading_ne {bytes : Bytes} (oversized : 65531 < bytes.length)
    (header : Attribute) :
    oversizedReading header bytes ≠ .ok [header, payloadAttribute bytes] := by
  have cut : Attribute.writtenLength bytes < 0x10000 := Nat.mod_lt _ (by decide)
  unfold oversizedReading
  intro whole
  dsimp only at whole
  split at whole
  · exact nomatch whole
  · cases others : Attribute.parseAt (12 + align (Attribute.writtenLength bytes))
      (bytes.drop (align (Attribute.writtenLength bytes) - 4) ++ Attribute.padding bytes) with
    | error fault =>
      rw [others] at whole
      exact nomatch whole
    | ok others =>
      rw [others] at whole
      obtain ⟨-, second⟩ := List.cons.inj (Except.ok.inj whole)
      have same : bytes.take (Attribute.writtenLength bytes - 4) = bytes :=
        congrArg Attribute.data (List.cons.inj second).1
      have shorter := congrArg List.length same
      rw [List.length_take] at shorter
      omega

/-- New bytes of just the wrong length are read from the first to the last as attributes of the
verdict. -/
theorem oversizedReading_of_length_eq {bytes : Bytes} (length : bytes.length = 0x10000)
    (header : Attribute) :
    oversizedReading header bytes =
      (Attribute.parseAt 16 bytes).map fun others => header :: payloadAttribute [] :: others := by
  have written : Attribute.writtenLength bytes = 4 := by
    rw [Attribute.writtenLength, length]
  have unpadded : Attribute.padding bytes = [] := by
    rw [Attribute.padding, length]
    rfl
  simp [oversizedReading, written, unpadded, align]

/-- What is read in the message of a modified packet of any length. It is sent whatever its length,
if the socket takes it, but only up to 65531 bytes it says what was meant. -/
theorem modified_message_reads (handle : VerdictHandle) (packet : Packet)
    (own : packet.session = handle.session) (bytes : Bytes) (bound : BoundQueue) :
    let refused := bound.kernel.sendsRefused.head?.join
    let header := Verdict.acceptModify.header packet.id
    let after := handle.setVerdict packet .acceptModify (some bytes) bound
    ∃ message,
      after.1 = (Kernel.outcome refused).mapError .transport ∧
      after.2.kernel.calls = bound.kernel.calls ++ [.send message refused] ∧
      (Attribute.parse (message.drop 20) = .ok [header, payloadAttribute bytes] ↔
        bytes.length ≤ 65531) ∧
      (65531 < bytes.length →
        Attribute.parse (message.drop 20) = oversizedReading header bytes) := by
  intro refused header after
  let request := handle.request packet.id (some bytes) .acceptModify
  obtain ⟨result, calls⟩ := handle.setVerdict_calls (some bytes) .acceptModify packet own bound
  have oversize (oversized : 65531 < bytes.length) :
      Attribute.parse request.encode = oversizedReading header bytes :=
    parse_modified_of_gt rfl oversized
  refine ⟨_, result, calls, ⟨?_, ?_⟩, oversize⟩
  · intro whole
    apply Nat.le_of_not_lt
    intro oversized
    exact oversizedReading_ne oversized header ((oversize oversized).symm.trans whole)
  · intro fits
    have room : request.change.Fits := fits
    exact VerdictRequest.parse_encode_of_fits room

/-- A record that nobody reads, and a mark for the connection in front of it. -/
def forgedMark : Bytes :=
  Attribute.encodeNested PacketKind.conntrack.code (PacketChange.markEntry 1001) ++
    Attribute.encode 0 (List.replicate 65520 0)

theorem parseAt_forgedMark (offset : Nat) :
    Attribute.parseAt offset forgedMark = .ok [
      { kind := PacketKind.conntrack.code, nested := true, data := PacketChange.markEntry 1001 },
      { kind := 0, nested := false, data := List.replicate 65520 0 }] := by
  have mark : (PacketChange.markEntry 1001).length ≤ 65531 := by
    rw [PacketChange.length_markEntry]; decide
  have filler : (List.replicate 65520 (0 : UInt8)).length ≤ 65531 := by
    rw [List.length_replicate]; decide
  rw [forgedMark, Attribute.encodeNested, Attribute.parseAt_encode_of_le _ _ mark,
    Attribute.parseAt_encode_last _ _ filler]
  rfl

theorem length_forgedMark : forgedMark.length = 0x10000 := by
  rw [forgedMark, Attribute.encodeNested, List.length_append, Attribute.length_encode,
    Attribute.length_encode, PacketChange.length_markEntry, List.length_replicate]
  rfl

theorem modified_message_reads_marked :
    let handle : VerdictHandle := ⟨3, 1001, 1002⟩
    let packet : Packet := ⟨7, 42, [0x45], 3⟩
    let bound : BoundQueue := { queue := { number := 100, sequence := 2 }, kernel := {} }
    packet.session = handle.session ∧ 65531 < forgedMark.length ∧ ∃ message,
      (handle.setVerdict packet .acceptModify (some forgedMark) bound).2.kernel.calls =
        [.send message none] ∧
      Attribute.parse (message.drop 20) =
        oversizedReading (Verdict.acceptModify.header 7) forgedMark := by
  intro handle packet bound
  have oversized : 65531 < forgedMark.length := by rw [length_forgedMark]; decide
  obtain ⟨message, _, calls, _, read⟩ :=
    modified_message_reads handle packet rfl forgedMark bound
  exact ⟨rfl, oversized, message, calls, read oversized⟩

/-- New bytes for a packet whose connection has no mark, and which is to be let through once, let
the whole connection through: the message is sent, and read as giving it the accept mark. -/
theorem modified_packet_forges_mark :
    let handle : VerdictHandle := ⟨3, 1001, 1002⟩
    let packet : Packet := ⟨7, 42, [0x45], 3⟩
    let bound : BoundQueue := { queue := { number := 100, sequence := 2 }, kernel := {} }
    let after := handle.setVerdict packet .acceptModify (some forgedMark) bound
    65531 < forgedMark.length ∧ after.1 = .ok () ∧ ∃ message addition filler,
      after.2.kernel.calls = [.send message none] ∧
      Marks handle.acceptMark addition ∧
      Attribute.parse (message.drop 20) =
        .ok [Verdict.acceptModify.header packet.id, payloadAttribute [], addition, filler] ∧
      Attribute.parse (message.drop 20) ≠
        .ok [Verdict.acceptModify.header packet.id, payloadAttribute forgedMark] := by
  intro handle packet bound after
  let header := Verdict.acceptModify.header packet.id
  obtain ⟨result, calls⟩ := handle.setVerdict_calls (some forgedMark) .acceptModify
    packet rfl bound
  have oversized : 65531 < forgedMark.length := by rw [length_forgedMark]; decide
  have read : Attribute.parse
      (handle.request packet.id (some forgedMark) .acceptModify).encode =
        oversizedReading header forgedMark := parse_modified_of_gt rfl oversized
  have forged : oversizedReading header forgedMark = .ok [header, payloadAttribute [],
      { kind := PacketKind.conntrack.code, nested := true, data := PacketChange.markEntry 1001 },
      { kind := 0, nested := false, data := List.replicate 65520 0 }] := by
    rw [oversizedReading_of_length_eq length_forgedMark, parseAt_forgedMark]
    rfl
  refine ⟨oversized, result, _, _, _, calls, ?_, read.trans forged, ?_⟩
  · exact ⟨rfl, rfl, PacketChange.parse_markEntry 1001⟩
  · intro whole
    exact oversizedReading_ne oversized header (read.symm.trans whole)

end PacketDivert
