import PacketDivert.Netlink.Attribute

/-! Records that were written are read again, whatever follows them. The header of a record has 16
bits for its length, so a record that is longer is read as a shorter one. -/

namespace PacketDivert.Netlink

namespace Attribute

/-- What the header of a record gives as its length. -/
def writtenLength (data : Bytes) : Nat := (4 + data.length) % 0x10000

/-- What stands behind the data of a record. -/
def padding (data : Bytes) : Bytes :=
  List.replicate (align (4 + data.length) - (4 + data.length)) 0

theorem writtenLength_eq {data : Bytes} (fits : data.length ≤ 65531) :
    writtenLength data = 4 + data.length := by
  unfold writtenLength; omega

/-- A record is as long as its header says. What stands behind that many bytes, and be it the rest
of its own data, is read as the next record. -/
theorem parseAt_encode (offset : Nat) (kind : UInt16) (data rest : Bytes) :
    parseAt offset (encode kind data ++ rest) =
      if writtenLength data < 4 then .error (.badLength offset (writtenLength data))
      else
        (parseAt (offset + align (writtenLength data))
            ((data ++ padding data ++ rest).drop (align (writtenLength data) - 4))).map
          (ofWritten kind (data.take (writtenLength data - 4)) :: ·) := by
  have length : (UInt16.ofNat (4 + data.length)).toNat = writtenLength data := by
    rw [UInt16.toNat_ofNat']
    rfl
  have shorter : writtenLength data - 4 ≤ data.length := by
    unfold writtenLength; omega
  have held : (data ++ (padding data ++ rest)).take (writtenLength data - 4) =
      data.take (writtenLength data - 4) := List.take_append_of_le_length shorter
  have enough : ¬(data.take (writtenLength data - 4)).length < writtenLength data - 4 := by
    rw [List.length_take]; omega
  have shape : encode kind data ++ rest =
      UInt8.ofNat (UInt16.ofNat (4 + data.length)).toNat ::
      UInt8.ofNat ((UInt16.ofNat (4 + data.length)).toNat / 0x100) ::
      UInt8.ofNat kind.toNat :: UInt8.ofNat (kind.toNat / 0x100) ::
      (data ++ (padding data ++ rest)) := by
    simp [encode, Bytes.le16, padding]
  rw [shape, parseAt, Bytes.word16_le16, Bytes.word16_le16, length, held, List.append_assoc]
  by_cases short : writtenLength data < 4
  · rw [if_pos (.inl short), if_pos short]
  · rw [if_neg (not_or.mpr ⟨short, enough⟩), if_neg short]
    cases parseAt (offset + align (writtenLength data))
      ((data ++ (padding data ++ rest)).drop (align (writtenLength data) - 4)) <;> rfl

/-- A record that its header describes is read as it was written. -/
theorem parseAt_encode_of_le (offset : Nat) (kind : UInt16) {data : Bytes}
    (fits : data.length ≤ 65531) (rest : Bytes) :
    parseAt offset (encode kind data ++ rest) =
      (parseAt (offset + (encode kind data).length) rest).map (ofWritten kind data :: ·) := by
  have written := writtenLength_eq fits
  have whole : data.take (writtenLength data - 4) = data :=
    List.take_of_length_le (by omega)
  have behind : (data ++ padding data ++ rest).drop (align (writtenLength data) - 4) = rest := by
    apply List.drop_left'
    have := le_align (4 + data.length)
    simp only [List.length_append, padding, List.length_replicate, written]
    omega
  have long : ¬writtenLength data < 4 := by omega
  rw [parseAt_encode, if_neg long, behind, whole, length_encode, written]

/-- The last record of a stream. -/
theorem parseAt_encode_last (offset : Nat) (kind : UInt16) {data : Bytes}
    (fits : data.length ≤ 65531) :
    parseAt offset (encode kind data) = .ok [ofWritten kind data] := by
  have read := parseAt_encode_of_le offset kind fits []
  rw [List.append_nil] at read
  rw [read, parseAt]
  rfl

/-- A record whose header does not describe it is cut short, or is no record at all. The rest of
its data is read as further records. -/
theorem parseAt_encode_of_gt (offset : Nat) (kind : UInt16) {data : Bytes}
    (oversized : 65531 < data.length) (rest : Bytes) :
    parseAt offset (encode kind data ++ rest) =
      if writtenLength data < 4 then .error (.badLength offset (writtenLength data))
      else
        (parseAt (offset + align (writtenLength data))
            (data.drop (align (writtenLength data) - 4) ++ padding data ++ rest)).map
          (ofWritten kind (data.take (writtenLength data - 4)) :: ·) := by
  have early : align (writtenLength data) - 4 ≤ data.length := by
    simp only [writtenLength, align]
    omega
  rw [parseAt_encode, List.append_assoc, List.drop_append_of_le_length early, List.append_assoc]

end Attribute

end PacketDivert.Netlink
