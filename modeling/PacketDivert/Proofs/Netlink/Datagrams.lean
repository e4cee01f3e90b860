import PacketDivert.Netlink.Message
import PacketDivert.Proofs.Netlink.AttributeTrees

namespace PacketDivert.Netlink

namespace Message

/-- A message of any kind and from any sender. -/
def write (kind flags : UInt16) (sequence sender : UInt32) (body : Bytes) : Bytes :=
  Bytes.le32 (UInt32.ofNat (16 + body.length)) ++ Bytes.le16 kind ++ Bytes.le16 flags ++
    Bytes.le32 sequence ++ Bytes.le32 sender ++ body

theorem length_write (kind flags : UInt16) (sequence sender : UInt32) (body : Bytes) :
    (write kind flags sequence sender body).length = 16 + body.length := by
  simp only [write, List.length_append, Bytes.length_le32, Bytes.length_le16]

theorem encode_eq_write (kind : MessageKind) (flags : UInt16) (sequence : UInt32) (queue : UInt16)
    (attributes : Bytes) :
    encode kind flags sequence queue attributes =
      write kind.code flags sequence 0 ([0, 0] ++ Bytes.be16 queue ++ attributes) := by
  have length : 20 + attributes.length =
      16 + ([0, 0] ++ Bytes.be16 queue ++ attributes).length := by
    simp only [List.length_append, List.length_cons, List.length_nil, Bytes.length_be16]
    omega
  rw [encode, length, write]
  simp only [List.append_assoc]

/-- The length that a header gives, of which only 32 bits are written. -/
theorem declaredLength_write (kind flags : UInt16) (sequence sender : UInt32) (body behind : Bytes) :
    (Bytes.word32At (write kind flags sequence sender body ++ behind) 0).toNat =
      (16 + body.length) % 0x100000000 := by
  have word : Bytes.word32At (write kind flags sequence sender body ++ behind) 0 =
      UInt32.ofNat (16 + body.length) := Bytes.word32_le32 _
  rw [word, UInt32.toNat_ofNat']

theorem headed_write (kind flags : UInt16) (sequence sender : UInt32) (body behind : Bytes) :
    ¬((write kind flags sequence sender body ++ behind).take 16).length < 16 := by
  rw [List.length_take, List.length_append, length_write]
  omega

/-- A message whose length has 32 bits is split from what stands behind its padding. -/
theorem framesAt_write (offset : Nat) (kind flags : UInt16) (sequence sender : UInt32)
    {body : Bytes} (short : 16 + body.length < 0x100000000) (behind : Bytes) :
    framesAt offset (write kind flags sequence sender body ++ behind) =
      .ok { kind, sequence, body } ::
        framesAt (offset + align (16 + body.length))
          (behind.drop (align (16 + body.length) - (16 + body.length))) := by
  have length := length_write kind flags sequence sender body
  have written := declaredLength_write kind flags sequence sender body behind
  have kindRead : Bytes.word16At (write kind flags sequence sender body ++ behind) 4 = kind :=
    Bytes.word16_le16 _
  have sequenceRead : Bytes.word32At (write kind flags sequence sender body ++ behind) 8 =
      sequence := Bytes.word32_le32 _
  have whole : (write kind flags sequence sender body ++ behind).take (16 + body.length) =
      write kind flags sequence sender body := List.take_left' length
  have rest : (write kind flags sequence sender body ++ behind).drop (align (16 + body.length)) =
      behind.drop (align (16 + body.length) - (16 + body.length)) := by
    rw [List.drop_append, length, List.drop_of_length_le (length ▸ le_align _), List.nil_append]
  have bodyRead : (write kind flags sequence sender body).drop 16 = body := rfl
  have fits : ¬(16 + body.length < 16 ∨
      (write kind flags sequence sender body).length < 16 + body.length) := by
    rw [length]
    omega
  rw [Nat.mod_eq_of_lt short] at written
  rw [framesAt, if_neg (headed_write kind flags sequence sender body behind)]
  dsimp only
  rw [written, whole, rest, kindRead, sequenceRead, bodyRead, if_neg fits]

/-- What a header of 32 bits gives as the length of a message may be less than the header has. -/
theorem framesAt_write_of_wrapped (offset : Nat) (kind flags : UInt16) (sequence sender : UInt32)
    {body : Bytes} (wrapped : (16 + body.length) % 0x100000000 < 16) (behind : Bytes) :
    framesAt offset (write kind flags sequence sender body ++ behind) =
      [.error (badLength offset ((16 + body.length) % 0x100000000))] := by
  rw [framesAt, if_neg (headed_write kind flags sequence sender body behind)]
  dsimp only
  rw [declaredLength_write, if_pos (.inl wrapped)]

end Message

namespace Attribute

/-- The attributes of one kind. -/
def ofKind (kind : PacketKind) (found : List Attribute) : List Attribute :=
  found.filter (·.kind = kind.code)

theorem word?_of_data {found : Attribute} {id : UInt32} {more : Bytes}
    (same : found.data = Bytes.be32 id ++ more) : found.word? = some id := by
  rw [word?, same]
  exact congrArg some (Bytes.word32_le32 id)

theorem foldl_data {found : List Attribute} {data? : Option Bytes}
    (held : found.map data = data?.toList) :
    found.foldl (fun _ record => some record.data) none = data? := by
  have read : found.foldl (fun _ record => some record.data) none =
      (found.map data).foldl (fun _ data => some data) none := List.foldl_map.symm
  rw [read, held]
  cases data? <;> rfl

theorem foldl_word? {found : List Attribute} {id? : Option UInt32} {more : Bytes}
    (held : found.map data = (id?.map (Bytes.be32 · ++ more)).toList) :
    found.foldl (fun _ record => record.word?) none = id? := by
  cases id? with
  | none =>
    rw [List.map_eq_nil_iff.mp held]
    rfl
  | some id =>
    obtain ⟨record, rfl, same⟩ := List.map_eq_singleton_iff.mp held
    exact word?_of_data same

end Attribute

namespace PacketReport

/-- Every part of a report comes from the attributes of its kind, and from no others. -/
theorem foldl_add (found : List Attribute) (report : PacketReport) :
    found.foldl add report = {
      id := (Attribute.ofKind .packetHeader found).foldl (fun _ record => record.word?) report.id
      payload := (Attribute.ofKind .payload found).foldl (fun _ record => some record.data)
        report.payload
      conntrack := (Attribute.ofKind .conntrack found).foldl (fun _ record => some record.data)
        report.conntrack } := by
  induction found generalizing report with
  | nil => rfl
  | cons record found inductionHypothesis =>
    rw [List.foldl_cons, inductionHypothesis]
    by_cases header : record.kind = PacketKind.packetHeader.code
    · simp [add, Attribute.ofKind, header, PacketKind.code]
    · by_cases payload : record.kind = PacketKind.payload.code
      · simp [add, Attribute.ofKind, payload, PacketKind.code]
      · by_cases conntrack : record.kind = PacketKind.conntrack.code
        · simp [add, Attribute.ofKind, conntrack, PacketKind.code]
        · simp [add, Attribute.ofKind, header, payload, conntrack]

/-- What stands in the records of one kind. -/
def dataOf (kind : PacketKind) (records : List Record) : List Bytes :=
  (Attribute.ofKind kind (records.map Record.reading)).map Attribute.data

/-- Records, in any order, that make up a report: one for each part that it has, none for a part
that it does not have, and any others. The id stands at the front of its record. -/
structure MadeOf (report : PacketReport) (records : List Record) : Prop where
  id : ∃ more, dataOf .packetHeader records = (report.id.map (Bytes.be32 · ++ more)).toList
  payload : dataOf .payload records = report.payload.toList
  conntrack : dataOf .conntrack records = report.conntrack.toList

theorem MadeOf.ofBody {report : PacketReport} {records : List Record} (made : report.MadeOf records)
    (fits : ∀ record ∈ records, record.Fits) {queue : Bytes} (four : queue.length = 4) :
    PacketReport.ofBody (queue ++ Record.encodeAll records) = .ok report := by
  obtain ⟨more, header⟩ := made.id
  rw [PacketReport.ofBody, List.drop_left' four, Record.parse_encodeAll fits]
  dsimp only
  rw [foldl_add, Attribute.foldl_word? header, Attribute.foldl_data made.payload,
    Attribute.foldl_data made.conntrack]

/-- What one entry of a datagram brings: a report, nothing, or a fault. -/
def ofFrame : Except SystemError Message → Except SystemError (Option PacketReport)
  | .error fault => .error fault
  | .ok message =>
    if message.kind = Message.statusKind then (Message.status message.body).map fun _ => none
    else if message.kind = MessageKind.packet.code then (ofBody message.body).map some
    else .ok none

theorem ofFrames_cons (frame : Except SystemError Message)
    (frames : List (Except SystemError Message)) :
    ofFrames (frame :: frames) =
      match ofFrame frame with
      | .error fault => .error fault
      | .ok report? => (ofFrames frames).map (report?.toList ++ ·) := by
  cases frame with
  | error fault => rfl
  | ok message =>
    rw [ofFrames, ofFrame]
    split
    · cases Message.status message.body with
      | error fault => rfl
      | ok _ => cases ofFrames frames <;> rfl
    · split
      · cases ofBody message.body <;> rfl
      · cases ofFrames frames <;> rfl

theorem ofFrames_cons_of_ok {frame : Except SystemError Message} {report? : Option PacketReport}
    (read : ofFrame frame = .ok report?) (frames : List (Except SystemError Message)) :
    ofFrames (frame :: frames) = (ofFrames frames).map (report?.toList ++ ·) := by
  rw [ofFrames_cons, read]

end PacketReport

/-- A message without its padding, and the report that it brings: one if it is a packet of a queue,
none if it acknowledges something or is of another kind. Its length has 32 bits, and the length of
each attribute has 16. -/
inductive Message.Brings : Bytes → Option PacketReport → Prop where
  | packet (flags : UInt16) (sequence : UInt32) (queue : UInt16) {records : List Record}
      {report : PacketReport} (made : report.MadeOf records)
      (fits : ∀ record ∈ records, record.Fits)
      (short : 20 + (Record.encodeAll records).length < 0x100000000) :
      Brings (encode .packet flags sequence queue (Record.encodeAll records)) (some report)
  | acknowledgement (flags : UInt16) (sequence sender : UInt32) {more : Bytes}
      (short : 20 + more.length < 0x100000000) :
      Brings (write statusKind flags sequence sender (Bytes.le32 0 ++ more)) none
  | foreign {kind : UInt16} (flags : UInt16) (sequence sender : UInt32) {body : Bytes}
      (status : kind ≠ statusKind) (packet : kind ≠ MessageKind.packet.code)
      (short : 16 + body.length < 0x100000000) :
      Brings (write kind flags sequence sender body) none

/-- Messages one after the other, each with its padding, and the reports that they bring. The
padding of the last one may be cut short. -/
inductive Conveys : Bytes → List PacketReport → Prop where
  | nothing : Conveys [] []
  | last {message : Bytes} {report? : Option PacketReport} {padding : Bytes}
      (brings : Message.Brings message report?)
      (padded : message.length + padding.length ≤ align message.length) :
      Conveys (message ++ padding) report?.toList
  | message {message : Bytes} {report? : Option PacketReport} {padding rest : Bytes}
      {reports : List PacketReport} (brings : Message.Brings message report?)
      (padded : message.length + padding.length = align message.length)
      (more : Conveys rest reports) :
      Conveys (message ++ padding ++ rest) (report?.toList ++ reports)

/-- Whatever a message brings, it is a message of some kind, which is read so. -/
theorem Message.Brings.exists_write {message : Bytes} {report? : Option PacketReport}
    (brings : Brings message report?) :
    ∃ kind flags sequence sender body,
      message = write kind flags sequence sender body ∧ 16 + body.length < 0x100000000 ∧
      PacketReport.ofFrame (.ok { kind, sequence, body }) = .ok report? := by
  cases brings with
  | @packet flags sequence queue records report made fits short =>
    have queueLength : ([0, 0] ++ Bytes.be16 queue).length = 4 := rfl
    refine ⟨_, flags, sequence, 0, _, encode_eq_write .packet flags sequence queue _, ?_, ?_⟩
    · rw [List.length_append, queueLength]
      omega
    · have packet : MessageKind.packet.code ≠ statusKind := by decide
      rw [PacketReport.ofFrame, if_neg packet, if_pos rfl, made.ofBody fits queueLength]
      rfl
  | @acknowledgement flags sequence sender more short =>
    refine ⟨_, flags, sequence, sender, _, rfl, ?_, ?_⟩
    · rw [List.length_append, Bytes.length_le32]
      omega
    · rw [PacketReport.ofFrame, if_pos rfl]
      rfl
  | @foreign kind flags sequence sender body status packet short =>
    refine ⟨kind, flags, sequence, sender, body, rfl, short, ?_⟩
    rw [PacketReport.ofFrame, if_neg status, if_neg packet]

/-- A message is split from what stands behind its padding, and read as what it brings. -/
theorem Message.Brings.framesAt {message : Bytes} {report? : Option PacketReport}
    (brings : Brings message report?) (offset : Nat) (behind : Bytes) :
    ∃ frame, PacketReport.ofFrame frame = .ok report? ∧
      Message.framesAt offset (message ++ behind) =
        frame :: Message.framesAt (offset + align message.length)
          (behind.drop (align message.length - message.length)) := by
  obtain ⟨kind, flags, sequence, sender, body, rfl, short, read⟩ := brings.exists_write
  refine ⟨_, read, ?_⟩
  rw [framesAt_write offset kind flags sequence sender short, length_write]

theorem Message.framesAt_nil (offset : Nat) : Message.framesAt offset [] = [] := by
  rw [Message.framesAt, if_pos (by decide)]

theorem Conveys.ofFrames {datagram : Bytes} {reports : List PacketReport}
    (conveys : Conveys datagram reports) (offset : Nat) :
    PacketReport.ofFrames (Message.framesAt offset datagram) = .ok reports := by
  -- The padding of a message goes with it, so that the next one begins where the rest does.
  induction conveys generalizing offset with
  | nothing => rw [Message.framesAt_nil, PacketReport.ofFrames]
  | @last message report? padding brings padded =>
    have cut : padding.drop (align message.length - message.length) = [] :=
      List.drop_of_length_le (by omega)
    obtain ⟨frame, read, split⟩ := brings.framesAt offset padding
    rw [split, PacketReport.ofFrames_cons_of_ok read, cut, Message.framesAt_nil,
      PacketReport.ofFrames, Except.map, List.append_nil]
  | @message message report? padding rest reports brings padded more inductionHypothesis =>
    have behind : (padding ++ rest).drop (align message.length - message.length) = rest :=
      List.drop_left' (by omega)
    obtain ⟨frame, read, split⟩ := brings.framesAt offset (padding ++ rest)
    rw [List.append_assoc, split, PacketReport.ofFrames_cons_of_ok read, behind,
      inductionHypothesis, Except.map]

/-- A datagram is read as the reports that were written into it, one for each packet and in their
order, each with the parts that it was made of. -/
theorem datagram_reports {datagram : Bytes} {reports : List PacketReport}
    (conveys : Conveys datagram reports) : PacketReport.ofDatagram datagram = .ok reports :=
  conveys.ofFrames 0

/-- An acknowledgement, a packet whose payload stands in front of its id, and a message of another
kind without its padding. -/
theorem datagram_reports_mixed :
    let records : List Record := [⟨10, [0x45, 1, 2]⟩, ⟨3, []⟩, ⟨1, Bytes.be32 77 ++ [8, 0, 2]⟩]
    let acknowledgement := Message.write Message.statusKind 0 7 0 (Bytes.le32 0)
    let packet := Message.encode .packet 0 8 100 (Record.encodeAll records)
    let foreign := Message.write 3 0 9 0 [9]
    let report : PacketReport := { id := some 77, payload := some [0x45, 1, 2] }
    Conveys (acknowledgement ++ packet ++ foreign) [report] ∧
      PacketReport.ofDatagram (acknowledgement ++ packet ++ foreign) = .ok [report] := by
  intro records acknowledgement packet foreign report
  have made : report.MadeOf records := ⟨⟨[8, 0, 2], rfl⟩, rfl, rfl⟩
  have fits : ∀ record ∈ records, record.Fits := by
    intro record member
    simp only [records, List.mem_cons, List.not_mem_nil, or_false] at member
    rcases member with rfl | rfl | rfl <;> exact Nat.le_of_ble_eq_true rfl
  have last : Conveys foreign [] := by
    have brings : Message.Brings foreign none :=
      .foreign 0 9 0 (by decide) (by decide) (by decide)
    simpa using @Conveys.last _ _ [] brings (by decide)
  have second : Conveys (packet ++ foreign) [report] := by
    have brings : Message.Brings packet (some report) := .packet 0 8 100 made fits (by decide)
    simpa using @Conveys.message _ _ [] _ _ brings (by decide) last
  have conveys : Conveys (acknowledgement ++ packet ++ foreign) [report] := by
    have brings : Message.Brings acknowledgement none :=
      @Message.Brings.acknowledgement 0 7 0 [] (by decide)
    simpa using @Conveys.message _ _ [] _ _ brings (by decide) second
  exact ⟨conveys, datagram_reports conveys⟩

namespace PacketReport

/-- A packet whose attributes cannot be read spoils its datagram. -/
theorem ofDatagram_encode_of_error (flags : UInt16) (sequence : UInt32) (queue : UInt16)
    {attributes : Bytes} (short : 20 + attributes.length < 0x100000000) {fault : AttributeError}
    (broken : Attribute.parse attributes = .error fault) :
    ofDatagram (Message.encode .packet flags sequence queue attributes) =
      .error (.invalidData fault.message) := by
  have queueLength : ([0, 0] ++ Bytes.be16 queue).length = 4 := rfl
  have shortBody : 16 + ([0, 0] ++ Bytes.be16 queue ++ attributes).length < 0x100000000 := by
    rw [List.length_append, queueLength]
    omega
  have split := Message.framesAt_write 0 MessageKind.packet.code flags sequence 0 shortBody []
  have packet : MessageKind.packet.code ≠ Message.statusKind := by decide
  rw [List.append_nil, ← Message.encode_eq_write] at split
  rw [ofDatagram, Message.frames, split, ofFrames_cons, ofFrame, if_neg packet, if_pos rfl, ofBody,
    List.drop_left' queueLength, broken]
  rfl

/-- So does a message whose length its header says to be none. -/
theorem ofDatagram_write_of_wrapped (kind flags : UInt16) (sequence sender : UInt32) {body : Bytes}
    (length : 16 + body.length = 0x100000000) :
    ofDatagram (Message.write kind flags sequence sender body) =
      .error (Message.badLength 0 0) := by
  have wrapped : (16 + body.length) % 0x100000000 = 0 := by rw [length]
  have split := Message.framesAt_write_of_wrapped 0 kind flags sequence sender
    (wrapped ▸ Nat.zero_lt_succ 15) []
  rw [List.append_nil, wrapped] at split
  rw [ofDatagram, Message.frames, split, ofFrames]

theorem dataOf_cons (kind : PacketKind) (record : Record) (records : List Record) :
    dataOf kind (record :: records) =
      (if record.reading.kind = kind.code then [record.data] else []) ++ dataOf kind records := by
  unfold dataOf Attribute.ofKind
  by_cases same : record.reading.kind = kind.code
  · rw [List.map_cons, List.filter_cons_of_pos (by simpa using same), if_pos same]
    rfl
  · simp [same]

theorem dataOf_replicate {kind : PacketKind} {record : Record}
    (other : record.reading.kind ≠ kind.code) (count : Nat) :
    dataOf kind (List.replicate count record) = [] := by
  induction count with
  | zero => rfl
  | succ count inductionHypothesis =>
    rw [List.replicate_succ, dataOf_cons, if_neg other, inductionHypothesis, List.append_nil]

end PacketReport

theorem Record.length_encodeAll_replicate (count : Nat) (record : Record) :
    (encodeAll (List.replicate count record)).length = count * align (4 + record.data.length) := by
  induction count with
  | zero => rw [List.replicate_zero, encodeAll, List.length_nil, Nat.zero_mul]
  | succ count inductionHypothesis =>
    rw [List.replicate_succ, encodeAll, List.length_append, Attribute.length_encode,
      inductionHypothesis, Nat.succ_mul, Nat.add_comm]

/-- Neither bound can be left out. A packet is not reported if an attribute of another kind in front
of its id has more bytes than its header can say, or if it has so many attributes, all of them
small, that its length has more than 32 bits; and a message of another kind is not passed over if
its length has more. -/
theorem oversized_messages_unread :
    let report : PacketReport := { id := some 5 }
    let long : List Record := [⟨3, List.replicate 65532 0⟩, ⟨1, Bytes.be32 5⟩]
    let many : List Record := ⟨1, Bytes.be32 5⟩ :: List.replicate 1073741817 ⟨3, []⟩
    let foreign := Message.write 3 0 9 0 (List.replicate 4294967280 0)
    (report.MadeOf long ∧ PacketReport.ofDatagram
        (Message.encode .packet 0 8 100 (Record.encodeAll long)) =
      .error (.invalidData (AttributeError.badLength 0 0).message)) ∧
    (report.MadeOf many ∧ (∀ record ∈ many, record.Fits) ∧ PacketReport.ofDatagram
        (Message.encode .packet 0 8 100 (Record.encodeAll many)) =
      .error (Message.badLength 0 0)) ∧
    PacketReport.ofDatagram foreign = .error (Message.badLength 0 0) := by
  intro report long many foreign
  have madeOfMany : report.MadeOf many := by
    refine ⟨⟨[], ?_⟩, ?_, ?_⟩ <;>
      rw [PacketReport.dataOf_cons, PacketReport.dataOf_replicate (by decide)] <;> rfl
  have fits : ∀ record ∈ many, record.Fits := by
    intro record member
    rcases List.mem_cons.mp member with rfl | rest
    · exact Nat.le_of_ble_eq_true rfl
    · rw [List.eq_of_mem_replicate rest]
      exact Nat.le_of_ble_eq_true rfl
  refine ⟨⟨⟨⟨[], rfl⟩, rfl, rfl⟩, ?_⟩, ⟨madeOfMany, fits, ?_⟩, ?_⟩
  · have oversized : 65531 < (List.replicate 65532 (0 : UInt8)).length := by
      rw [List.length_replicate]
      decide
    have wrapped : Attribute.writtenLength (List.replicate 65532 0) = 0 := by
      rw [Attribute.writtenLength, List.length_replicate]
    have broken : Attribute.parse (Record.encodeAll long) = .error (.badLength 0 0) := by
      rw [Record.encodeAll, Attribute.parse, Attribute.parseAt_encode_of_gt 0 _ oversized, wrapped]
      rfl
    have length : (Record.encodeAll long).length = 65544 := by
      rw [Record.encodeAll, List.length_append, Attribute.length_encode, List.length_replicate]
      rfl
    exact PacketReport.ofDatagram_encode_of_error 0 8 100 (length ▸ by decide) broken
  · have length : (Record.encodeAll many).length = 4294967276 := by
      rw [Record.encodeAll, List.length_append, Attribute.length_encode,
        Record.length_encodeAll_replicate]
      rfl
    rw [Message.encode_eq_write]
    apply PacketReport.ofDatagram_write_of_wrapped
    rw [List.length_append, length]
    rfl
  · apply PacketReport.ofDatagram_write_of_wrapped
    rw [List.length_replicate]

end PacketDivert.Netlink
