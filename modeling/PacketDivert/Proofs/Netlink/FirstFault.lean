import PacketDivert.Proofs.Netlink.MessageSequences

namespace PacketDivert.Netlink

namespace Message

/-- A message that is bad, where it begins at `offset` and has `behind` behind it, and its own
error: a status without a code; a status with a code, whose negation is the number of the error
(every code but the least has one); a packet whose attributes are malformed; and a header that gives
a length that is less than its own, or more than is left of the datagram. -/
inductive Bad (offset : Nat) (behind : Bytes) : Bytes → SystemError → Prop where
  | shortStatus (flags : UInt16) (sequence sender : UInt32) {body : Bytes}
      (short : body.length < 4) :
      Bad offset behind (write statusKind flags sequence sender body)
        (.invalidData "short netlink error message")
  | refusal (flags : UInt16) (sequence sender : UInt32) {code number : Int32} {more : Bytes}
      (nonzero : code ≠ 0) (negated : number.toInt = -code.toInt)
      (short : 20 + more.length < 0x100000000) :
      Bad offset behind (write statusKind flags sequence sender (Bytes.le32 code.toUInt32 ++ more))
        (.code number)
  | packet (flags : UInt16) (sequence sender : UInt32) {body : Bytes} {fault : AttributeError}
      (malformed : Attribute.parse (body.drop 4) = .error fault)
      (short : 16 + body.length < 0x100000000) :
      Bad offset behind (write MessageKind.packet.code flags sequence sender body)
        (.invalidData fault.message)
  | misframed {header : Bytes} {length : Nat} (sixteen : header.length = 16)
      (given : (Bytes.word32At header 0).toNat = length)
      (misfit : length < 16 ∨ 16 + behind.length < length) :
      Bad offset behind header (badLength offset length)

/-- Every code but the least has a negation that is the number of an error. -/
theorem exists_negated_iff (code : Int32) :
    (∃ number : Int32, number.toInt = -code.toInt) ↔ code ≠ Int32.minValue := by
  constructor
  · rintro ⟨number, negated⟩ rfl
    have bound := number.toInt_lt
    rw [Int32.toInt_minValue] at negated
    omega
  · intro least
    have bound := code.toInt_lt
    have above : -2 ^ 31 < code.toInt := by
      have apart : code.toInt ≠ -2 ^ 31 :=
        fun same => least (Int32.toInt_inj.mp (same.trans Int32.toInt_minValue.symm))
      have lower := code.le_toInt
      omega
    exact ⟨Int32.ofInt (-code.toInt), Int32.toInt_ofInt_of_le (by omega) (by omega)⟩

theorem neg_eq_of_negated {code number : Int32} (negated : number.toInt = -code.toInt) :
    -code = number := by
  apply Int32.toInt_inj.mp
  rw [Int32.toInt_neg, ← negated]
  exact number.toInt_bmod

theorem toInt_neg_iff (code : Int32) : (-code).toInt = -code.toInt ↔ code ≠ Int32.minValue := by
  constructor
  · intro negated
    exact (exists_negated_iff code).mp ⟨-code, negated⟩
  · intro least
    obtain ⟨number, negated⟩ := (exists_negated_iff code).mpr least
    rw [neg_eq_of_negated negated, negated]

theorem status_of_ne_zero {code : Int32} (nonzero : code ≠ 0) (more : Bytes) :
    status (Bytes.le32 code.toUInt32 ++ more) = .error (.code (-code)) := by
  have word : Bytes.word32At (Bytes.le32 code.toUInt32 ++ more) 0 = code.toUInt32 :=
    Bytes.word32_le32 _
  have same : code.toUInt32.toInt32 = code := rfl
  have whole : ¬((Bytes.le32 code.toUInt32 ++ more).take 4).length < 4 := by
    rw [List.length_take, List.length_append, Bytes.length_le32]
    omega
  rw [status, if_neg whole, word, same]
  exact if_neg nonzero

/-- A bad message decides what is read from its place on. -/
theorem Bad.ofFrames {offset : Nat} {bad behind : Bytes} {fault : SystemError}
    (faulty : Bad offset behind bad fault) :
    PacketReport.ofFrames (framesAt offset (bad ++ behind)) = .error fault := by
  cases faulty with
  | @shortStatus flags sequence sender body short =>
    have room : 16 + body.length < 0x100000000 := by omega
    have cut : (body.take 4).length < 4 := by
      rw [List.length_take]
      omega
    rw [framesAt_write _ _ _ _ _ room, PacketReport.ofFrames, if_pos rfl, status, if_pos cut]
  | @refusal flags sequence sender code number more nonzero negated short =>
    have room : 16 + (Bytes.le32 code.toUInt32 ++ more).length < 0x100000000 := by
      rw [List.length_append, Bytes.length_le32]
      omega
    rw [framesAt_write _ _ _ _ _ room, PacketReport.ofFrames, if_pos rfl,
      status_of_ne_zero nonzero, neg_eq_of_negated negated]
  | @packet flags sequence sender body fault malformed short =>
    have packet : MessageKind.packet.code ≠ statusKind := by decide
    rw [framesAt_write _ _ _ _ _ short, PacketReport.ofFrames, if_neg packet, if_pos rfl,
      PacketReport.ofBody, malformed]
  | @misframed _ length sixteen given misfit =>
    have headed : 16 ≤ (bad ++ behind).length := by
      rw [List.length_append]
      omega
    have read : declared (bad ++ behind) = length := by
      rw [declared, Bytes.word32At_append (by omega), given]
    have broken : ¬Stands (bad ++ behind) := by
      rw [Stands, read, List.length_append]
      omega
    rw [framesAt_of_broken offset headed broken, read, PacketReport.ofFrames]

end Message

/-- The last attribute of a kind. -/
def Attribute.last? (kind : PacketKind) (found : List Attribute) : Option Attribute :=
  (ofKind kind found).getLast?

/-- A report that is given by attributes: each part of it by the last one of its kind. The id stands
at the front of its attribute, and one that is too short for it gives none. -/
structure PacketReport.GivenBy (report : PacketReport) (found : List Attribute) : Prop where
  id : ∀ id, report.id = some id ↔
    ∃ header more, Attribute.last? .packetHeader found = some header ∧
      header.data = Bytes.be32 id ++ more
  short : ∀ header, Attribute.last? .packetHeader found = some header → header.data.length < 4 →
    report.id = none
  payload : report.payload = (Attribute.last? .payload found).map Attribute.data
  conntrack : report.conntrack = (Attribute.last? .conntrack found).map Attribute.data

theorem Attribute.word?_eq_some_iff {record : Attribute} {id : UInt32} :
    record.word? = some id ↔ ∃ more, record.data = Bytes.be32 id ++ more := by
  constructor
  · intro read
    unfold word? at read
    split at read
    · next first second third fourth more same =>
      refine ⟨more, ?_⟩
      rw [← Option.some.inj read, same, Bytes.be32, Bytes.le32_word32]
      rfl
    · exact nomatch read
  · rintro ⟨more, same⟩
    exact word?_of_data same

theorem Attribute.foldl_last {α : Type} (part : Attribute → Option α) (found : List Attribute) :
    found.foldl (fun _ record => part record) none = found.getLast?.bind part := by
  rcases List.eq_nil_or_concat found with rfl | ⟨front, record, rfl⟩
  · rfl
  · rw [List.concat_eq_append, List.foldl_append, List.getLast?_concat]
    rfl

/-- Attributes give the report that is read from them. -/
theorem PacketReport.givenBy_foldl (found : List Attribute) :
    (found.foldl add {}).GivenBy found := by
  rw [foldl_add, Attribute.foldl_last Attribute.word?, Attribute.foldl_last (some ·.data),
    Attribute.foldl_last (some ·.data)]
  have given (id : UInt32) : (Attribute.last? .packetHeader found).bind Attribute.word? = some id ↔
      ∃ header more, Attribute.last? .packetHeader found = some header ∧
        header.data = Bytes.be32 id ++ more := by
    simp only [Option.bind_eq_some_iff, Attribute.word?_eq_some_iff, exists_and_left]
  refine ⟨given, ?_, ?_, ?_⟩
  · intro header last short
    apply Option.eq_none_iff_forall_not_mem.mpr
    intro id read
    obtain ⟨other, more, same, data⟩ := (given id).mp read
    obtain rfl := Option.some.inj (last.symm.trans same)
    rw [data, List.length_append, Bytes.length_be32] at short
    omega
  · exact Option.map_eq_bind.symm
  · exact Option.map_eq_bind.symm

/-- Behind complete messages that are read, the first message that is bad decides the whole,
whatever stands behind it. A packet brings the report that the last attribute of each kind gives,
and what is read behind it is read in any case. -/
theorem first_fault_decides {front : Bytes} {reports : List PacketReport}
    (complete : Message.Sequence front) (read : PacketReport.ofDatagram front = .ok reports) :
    (∀ bad behind fault, Message.Bad front.length behind bad fault →
      PacketReport.ofDatagram (front ++ bad ++ behind) = .error fault) ∧
    ∀ flags sequence sender body found behind more, 16 + body.length < 0x100000000 →
      Attribute.parse (body.drop 4) = .ok found →
      PacketReport.ofDatagram (behind.drop (align (16 + body.length) - (16 + body.length))) =
        .ok more →
      ∃ report, PacketReport.GivenBy report found ∧
        PacketReport.ofDatagram (front ++
          Message.write MessageKind.packet.code flags sequence sender body ++ behind) =
            .ok (reports ++ report :: more) := by
  constructor
  · intro bad behind fault faulty
    rw [List.append_assoc, PacketReport.ofDatagram_append complete, read]
    dsimp only
    rw [faulty.ofFrames]
    rfl
  · intro flags sequence sender body found behind more short parsed rest
    refine ⟨_, PacketReport.givenBy_foldl found, ?_⟩
    have packet : MessageKind.packet.code ≠ Message.statusKind := by decide
    have report : PacketReport.ofBody body = .ok (found.foldl PacketReport.add {}) := by
      rw [PacketReport.ofBody, parsed]
    rw [List.append_assoc, PacketReport.ofDatagram_append complete, read]
    dsimp only
    rw [Message.framesAt_write _ _ _ _ _ short, PacketReport.ofFrames, if_neg packet, if_pos rfl,
      report, PacketReport.ofFrames_framesAt rest]
    rfl

/-- Behind an acknowledgement a refusal decides, whatever the bytes behind it say. In a packet that
gives its id twice, the second time too short, no id counts. -/
theorem first_fault_decides_refused :
    let acknowledgement := Message.write Message.statusKind 0 7 0 (Bytes.le32 0)
    let refusal :=
      Message.write Message.statusKind 0 0 0 (Bytes.le32 (-105 : Int32).toUInt32 ++ [1])
    let twice := [0, 0, 0, 100] ++ Record.encodeAll [⟨1, Bytes.be32 77⟩, ⟨1, [5]⟩]
    Message.Sequence acknowledgement ∧ PacketReport.ofDatagram acknowledgement = .ok [] ∧
      PacketReport.ofDatagram (acknowledgement ++ refusal ++ [9, 9, 9]) = .error (.code 105) ∧
      PacketReport.ofDatagram
        (acknowledgement ++ Message.write MessageKind.packet.code 0 0 0 twice ++ []) =
          .ok [{ id := none }] := by
  intro acknowledgement refusal twice
  have complete : Message.Sequence acknowledgement := by
    simpa using @Message.Sequence.message Message.statusKind 0 7 0 (Bytes.le32 0) [] []
      (by decide) (by decide) .nothing
  have read : PacketReport.ofDatagram acknowledgement = .ok [] := by
    have conveys : Conveys (acknowledgement ++ []) [] :=
      .last (@Message.Brings.acknowledgement 0 7 0 [] (by decide)) (by decide)
    exact conveys.ofFrames 0
  obtain ⟨faults, packets⟩ := first_fault_decides complete read
  have refused : Message.Bad acknowledgement.length [9, 9, 9] refusal (.code 105) :=
    .refusal 0 0 0 (by decide) (by decide) (by decide)
  have parsed : Attribute.parse (twice.drop 4) =
      .ok [⟨1, false, Bytes.be32 77⟩, ⟨1, false, [5]⟩] := by
    have fits : ∀ record ∈ [(⟨1, Bytes.be32 77⟩ : Record), ⟨1, [5]⟩], record.Fits := by
      intro record member
      simp only [List.mem_cons, List.not_mem_nil, or_false] at member
      rcases member with rfl | rfl <;> exact Nat.le_of_ble_eq_true rfl
    exact Record.parse_encodeAll fits
  have nothing : PacketReport.ofDatagram
      (([] : Bytes).drop (align (16 + twice.length) - (16 + twice.length))) = .ok [] := by
    rw [List.drop_nil]
    exact Conveys.nothing.ofFrames 0
  obtain ⟨report, given, second⟩ := packets 0 0 0 twice _ [] [] (by decide) parsed nothing
  have blank : report = { id := none } := by
    have id : report.id = none := given.short ⟨1, false, [5]⟩ rfl (by decide)
    have payload : report.payload = none := given.payload
    have conntrack : report.conntrack = none := given.conntrack
    cases report
    simp only at id payload conntrack
    rw [id, payload, conntrack]
  rw [blank] at second
  exact ⟨complete, read, faults _ _ _ refused, second⟩

end PacketDivert.Netlink
