import PacketDivert.Proofs.Netlink.AttributeTrees

namespace PacketDivert.Netlink

namespace Attribute

variable {stream : Bytes}

/-- The length that the record at the front of a stream gives for itself. -/
def declared (stream : Bytes) : Nat := (Bytes.word16At stream 0).toNat

/-- A stream starts with a record that is at least a header long and does not reach beyond it. -/
def Stands (stream : Bytes) : Prop := 4 ≤ declared stream ∧ declared stream ≤ stream.length

instance (stream : Bytes) : Decidable (Stands stream) := inferInstanceAs (Decidable (_ ∧ _))

/-- The record at the front of a stream, as it was written. -/
def frontRecord (stream : Bytes) : Record where
  written := Bytes.word16At stream 2
  data := (stream.take (declared stream)).drop 4

/-- What stands behind the record at the front of a stream and its padding. -/
def behind (stream : Bytes) : Bytes := stream.drop (align (declared stream))

theorem exists_header (header : 4 ≤ stream.length) :
    ∃ first second third fourth rest, stream = first :: second :: third :: fourth :: rest := by
  match stream, header with
  | first :: second :: third :: fourth :: rest, _ => exact ⟨first, second, third, fourth, rest, rfl⟩

theorem parseAt_nil (offset : Nat) : parseAt offset [] = .ok [] := by rw [parseAt]

theorem parseAt_of_cut (offset : Nat) (some : stream ≠ []) (cut : stream.length < 4) :
    parseAt offset stream = .error (.truncated offset) := by
  rw [parseAt]
  · exact some
  · rintro first second third fourth rest rfl
    simp only [List.length_cons] at cut
    omega

theorem parseAt_of_broken (offset : Nat) (header : 4 ≤ stream.length) (broken : ¬Stands stream) :
    parseAt offset stream = .error (.badLength offset (declared stream)) := by
  obtain ⟨first, second, third, fourth, rest, rfl⟩ := exists_header header
  have read : declared (first :: second :: third :: fourth :: rest) =
      (Bytes.word16 first second).toNat := rfl
  have misfit : (Bytes.word16 first second).toNat < 4 ∨
      (rest.take ((Bytes.word16 first second).toNat - 4)).length <
        (Bytes.word16 first second).toNat - 4 := by
    rw [Stands, read, List.length_cons, List.length_cons, List.length_cons, List.length_cons]
      at broken
    rw [List.length_take]
    omega
  rw [parseAt, if_pos misfit, read]

theorem parseAt_of_stands (offset : Nat) (stands : Stands stream) :
    parseAt offset stream =
      (parseAt (offset + align (declared stream)) (behind stream)).map
        ((frontRecord stream).reading :: ·) := by
  obtain ⟨least, fits⟩ := stands
  obtain ⟨first, second, third, fourth, rest, rfl⟩ := exists_header (Nat.le_trans least fits)
  have read : declared (first :: second :: third :: fourth :: rest) =
      (Bytes.word16 first second).toNat := rfl
  rw [read] at least fits
  have fit : ¬((Bytes.word16 first second).toNat < 4 ∨
      (rest.take ((Bytes.word16 first second).toNat - 4)).length <
        (Bytes.word16 first second).toNat - 4) := by
    simp only [List.length_cons] at fits
    rw [List.length_take]
    omega
  have data : ((first :: second :: third :: fourth :: rest).take
      (Bytes.word16 first second).toNat).drop 4 =
        rest.take ((Bytes.word16 first second).toNat - 4) := List.drop_take
  have later : (first :: second :: third :: fourth :: rest).drop
      (align (Bytes.word16 first second).toNat) =
        rest.drop (align (Bytes.word16 first second).toNat - 4) := by
    have padded := le_align (Bytes.word16 first second).toNat
    obtain ⟨more, room⟩ := Nat.exists_eq_add_of_le (Nat.le_trans least padded)
    rw [room, Nat.add_sub_cancel_left, Nat.add_comm]
    rfl
  rw [parseAt, if_neg fit, behind, frontRecord, read, data, later]
  cases parseAt (offset + align (Bytes.word16 first second).toNat)
    (rest.drop (align (Bytes.word16 first second).toNat - 4)) <;> rfl

end Attribute

namespace Record

/-- What stands in front of the data: the length of both, and the kind. -/
def header (record : Record) : Bytes :=
  Bytes.le16 (UInt16.ofNat (4 + record.data.length)) ++ Bytes.le16 record.written

theorem length_header (record : Record) : record.header.length = 4 := rfl

/-- A stream is made of records, each padded to a multiple of four. Only the padding of the last
one may be cut short. -/
inductive Stream : Bytes → List Record → Prop where
  | nothing : Stream [] []
  | last {record : Record} {padding : Bytes} (fits : record.Fits)
      (padded : 4 + record.data.length + padding.length ≤ align (4 + record.data.length)) :
      Stream (record.header ++ record.data ++ padding) [record]
  | record {record : Record} {padding rest : Bytes} {records : List Record} (fits : record.Fits)
      (padded : 4 + record.data.length + padding.length = align (4 + record.data.length))
      (more : Stream rest records) :
      Stream (record.header ++ record.data ++ padding ++ rest) (record :: records)

theorem declared_append {record : Record} (fits : record.Fits) (behind : Bytes) :
    Attribute.declared (record.header ++ record.data ++ behind) = 4 + record.data.length := by
  have word : Bytes.word16At (record.header ++ record.data ++ behind) 0 =
      UInt16.ofNat (4 + record.data.length) := Bytes.word16_le16 _
  have room : 4 + record.data.length < 0x10000 := by
    unfold Fits at fits
    omega
  rw [Attribute.declared, word, UInt16.toNat_ofNat', Nat.mod_eq_of_lt room]

/-- A record is read, whatever it is padded with. -/
theorem parseAt_append (offset : Nat) {record : Record} (fits : record.Fits) (behind : Bytes) :
    Attribute.parseAt offset (record.header ++ record.data ++ behind) =
      (Attribute.parseAt (offset + align (4 + record.data.length))
        (behind.drop (align (4 + record.data.length) - (4 + record.data.length)))).map
        (record.reading :: ·) := by
  have declared := declared_append fits behind
  have length : (record.header ++ record.data).length = 4 + record.data.length :=
    List.length_append
  have stands : Attribute.Stands (record.header ++ record.data ++ behind) := by
    rw [Attribute.Stands, declared, List.length_append, length]
    omega
  have whole : Attribute.frontRecord (record.header ++ record.data ++ behind) = record := by
    have written : Bytes.word16At (record.header ++ record.data ++ behind) 2 = record.written :=
      Bytes.word16_le16 _
    rw [Attribute.frontRecord, declared, written, List.take_left' length,
      List.drop_left' record.length_header]
  have rest : Attribute.behind (record.header ++ record.data ++ behind) =
      behind.drop (align (4 + record.data.length) - (4 + record.data.length)) := by
    rw [Attribute.behind, declared, List.drop_append, length,
      List.drop_of_length_le (length ▸ le_align _), List.nil_append]
  rw [Attribute.parseAt_of_stands offset stands, declared, whole, rest]

/-- A stream is read as its records. What stands behind one that is not cut short is read as if it
stood alone. -/
theorem Stream.parseAt_append {front : Bytes} {records : List Record}
    (made : Stream front records) (offset : Nat) {rest : Bytes}
    (uncut : rest = [] ∨ 4 ∣ front.length) :
    Attribute.parseAt offset (front ++ rest) =
      (Attribute.parseAt (offset + front.length) rest).map (records.map reading ++ ·) := by
  induction made generalizing offset with
  | nothing =>
    rw [List.nil_append, List.length_nil, Nat.add_zero, List.map_nil]
    cases Attribute.parseAt offset rest <;> rfl
  | @last record padding fits padded =>
    have length : (record.header ++ record.data ++ padding).length =
        4 + record.data.length + padding.length := by
      rw [List.length_append, List.length_append, record.length_header]
    rw [List.append_assoc, Record.parseAt_append offset fits]
    rcases uncut with rfl | whole
    · have spent : (padding ++ []).drop
          (align (4 + record.data.length) - (4 + record.data.length)) = [] := by
        rw [List.append_nil]
        exact List.drop_of_length_le (by omega)
      rw [spent, Attribute.parseAt_nil, Attribute.parseAt_nil]
      rfl
    · have full : padding.length =
          align (4 + record.data.length) - (4 + record.data.length) := by
        rw [length] at whole
        unfold align at padded ⊢
        omega
      have reached : offset + align (4 + record.data.length) =
          offset + (record.header ++ record.data ++ padding).length := by
        rw [length]
        omega
      rw [List.drop_left' full, reached]
      rfl
  | @record record padding others records fits padded more inductionHypothesis =>
    have full : padding.length = align (4 + record.data.length) - (4 + record.data.length) := by
      omega
    have length : (record.header ++ record.data ++ padding ++ others).length =
        align (4 + record.data.length) + others.length := by
      rw [List.length_append, List.length_append, List.length_append, record.length_header, padded]
    have uncutRest : rest = [] ∨ 4 ∣ others.length := by
      refine uncut.imp_right fun whole => ?_
      rw [length, align] at whole
      omega
    rw [List.append_assoc, List.append_assoc, Record.parseAt_append offset fits,
      List.drop_left' full, inductionHypothesis _ uncutRest, length, Nat.add_assoc]
    cases Attribute.parseAt (offset + (align (4 + record.data.length) + others.length)) rest <;> rfl

theorem Stream.parse_eq {stream : Bytes} {records : List Record} (made : Stream stream records) :
    Attribute.parse stream = .ok (records.map reading) := by
  have read := made.parseAt_append 0 (.inl rfl)
  rw [List.append_nil] at read
  rw [Attribute.parse, read, Attribute.parseAt_nil, Except.map, List.append_nil]

end Record

namespace Attribute

variable {stream : Bytes}

theorem length_frontRecord (stands : Stands stream) :
    4 + (frontRecord stream).data.length = declared stream := by
  obtain ⟨least, fits⟩ := stands
  rw [frontRecord, List.length_drop, List.length_take, Nat.min_eq_left fits]
  omega

theorem fits_frontRecord (stands : Stands stream) : (frontRecord stream).Fits := by
  have length := length_frontRecord stands
  have bound : declared stream < 65536 := (Bytes.word16At stream 0).toNat_lt
  unfold Record.Fits
  omega

/-- The bytes of the record at the front of a stream are those that it is read from. -/
theorem frontRecord_append (stands : Stands stream) :
    (frontRecord stream).header ++ (frontRecord stream).data ++ stream.drop (declared stream) =
      stream := by
  have length := length_frontRecord stands
  obtain ⟨least, fits⟩ := stands
  have header : (frontRecord stream).header = stream.take 4 := by
    obtain ⟨first, second, third, fourth, rest, rfl⟩ := exists_header (Nat.le_trans least fits)
    have written : (frontRecord (first :: second :: third :: fourth :: rest)).written =
        Bytes.word16 third fourth := rfl
    have word : UInt16.ofNat (declared (first :: second :: third :: fourth :: rest)) =
        Bytes.word16 first second := UInt16.ofNat_toNat
    rw [Record.header, length, word, written, Bytes.le16_word16, Bytes.le16_word16]
    rfl
  have data : (frontRecord stream).data = (stream.take (declared stream)).drop 4 := rfl
  have start : stream.take 4 = (stream.take (declared stream)).take 4 := by
    rw [List.take_take, Nat.min_eq_left least]
  rw [header, data, start, List.take_append_drop, List.take_append_drop]

theorem length_behind_lt (stands : Stands stream) : (behind stream).length < stream.length := by
  obtain ⟨least, fits⟩ := stands
  have padded := le_align (declared stream)
  rw [behind, List.length_drop]
  omega

/-- Where nothing is cut short, a record and its padding stand in front of the rest. -/
theorem stream_of_stands {records : List Record} (stands : Stands stream)
    (room : align (declared stream) ≤ stream.length)
    (made : Record.Stream (behind stream) records) :
    Record.Stream stream (frontRecord stream :: records) := by
  have length := length_frontRecord stands
  have wider := le_align (declared stream)
  let padding := (stream.drop (declared stream)).take (align (declared stream) - declared stream)
  have padded : padding.length = align (declared stream) - declared stream := by
    rw [List.length_take, List.length_drop]
    omega
  have rest : padding ++ behind stream = stream.drop (declared stream) := by
    have further : behind stream = (stream.drop (declared stream)).drop
        (align (declared stream) - declared stream) := by
      rw [behind, List.drop_drop, Nat.add_sub_of_le wider]
    rw [further, List.take_append_drop]
  have first : Record.Stream ((frontRecord stream).header ++ (frontRecord stream).data ++ padding ++
      behind stream) (frontRecord stream :: records) := by
    refine .record (fits_frontRecord stands) ?_ made
    rw [length, padded]
    omega
  rwa [List.append_assoc, rest, frontRecord_append stands] at first

/-- The last record of a stream, whose padding may be cut short. -/
theorem stream_of_last (stands : Stands stream)
    (cut : stream.length ≤ align (declared stream)) :
    Record.Stream stream [frontRecord stream] := by
  have length := length_frontRecord stands
  have last : Record.Stream ((frontRecord stream).header ++ (frontRecord stream).data ++
      stream.drop (declared stream)) [frontRecord stream] := by
    refine .last (fits_frontRecord stands) ?_
    rw [length, List.length_drop]
    have padded := le_align (declared stream)
    omega
  rwa [frontRecord_append stands] at last

/-- What is read is made of records. -/
theorem exists_stream {stream : Bytes} {offset : Nat} {found : List Attribute}
    (read : parseAt offset stream = .ok found) :
    ∃ records, Record.Stream stream records ∧ found = records.map Record.reading := by
  by_cases empty : stream = []
  · subst empty
    rw [parseAt_nil] at read
    exact ⟨[], .nothing, (Except.ok.inj read).symm⟩
  by_cases stands : Stands stream
  · rw [parseAt_of_stands offset stands] at read
    cases later : parseAt (offset + align (declared stream)) (behind stream) with
    | error fault =>
      rw [later] at read
      exact nomatch read
    | ok tail =>
      rw [later] at read
      obtain rfl := Except.ok.inj read
      by_cases cut : stream.length ≤ align (declared stream)
      · have spent : behind stream = [] := List.drop_of_length_le cut
        rw [spent, parseAt_nil] at later
        obtain rfl := Except.ok.inj later
        exact ⟨[frontRecord stream], stream_of_last stands cut, rfl⟩
      · obtain ⟨records, made, rfl⟩ := exists_stream later
        exact ⟨frontRecord stream :: records, stream_of_stands stands (by omega) made, rfl⟩
  · by_cases header : 4 ≤ stream.length
    · rw [parseAt_of_broken offset header stands] at read
      exact nomatch read
    · rw [parseAt_of_cut offset empty (by omega)] at read
      exact nomatch read
  termination_by stream.length
  decreasing_by exact length_behind_lt stands

/-- The record at some place of a stream is bad: its header is cut short, or gives a length that is
less than its own or reaches out of the stream. -/
inductive FaultAt (stream : Bytes) (place : Nat) : AttributeError → Prop where
  | truncated (some : place < stream.length) (few : stream.length < place + 4) :
      FaultAt stream place (.truncated place)
  | badLength {length : Nat} (header : place + 4 ≤ stream.length)
      (given : (Bytes.word16At stream place).toNat = length)
      (bad : length < 4 ∨ stream.length < place + length) :
      FaultAt stream place (.badLength place length)

/-- The place at which a stream goes wrong: a multiple of four, up to which it can be read, and
where the record is bad. -/
structure Breaks (stream : Bytes) (place : Nat) (fault : AttributeError) : Prop where
  aligned : 4 ∣ place
  front : ∃ found, parse (stream.take place) = .ok found
  fault : FaultAt stream place fault

/-- A bad record is found where it stands. -/
theorem FaultAt.parseAt_drop {place : Nat} {fault : AttributeError}
    (faulty : FaultAt stream place fault) : parseAt place (stream.drop place) = .error fault := by
  cases faulty with
  | truncated some few =>
    refine parseAt_of_cut place ?_ ?_
    · rw [ne_eq, List.drop_eq_nil_iff]
      omega
    · rw [List.length_drop]
      omega
  | @badLength length header given bad =>
    have read : declared (stream.drop place) = length := by
      rw [declared, Bytes.word16At_drop]
      exact given
    have broken : ¬Stands (stream.drop place) := by
      rw [Stands, read, List.length_drop]
      omega
    have whole : 4 ≤ (stream.drop place).length := by
      rw [List.length_drop]
      omega
    rw [parseAt_of_broken place whole broken, read]

theorem FaultAt.shift {start place : Nat} {fault : AttributeError}
    (faulty : FaultAt (stream.drop start) place fault) :
    FaultAt stream (place + start) (fault.behind start) := by
  cases faulty with
  | truncated some few =>
    rw [List.length_drop] at some few
    exact .truncated (by omega) (by omega)
  | badLength header given bad =>
    rw [List.length_drop] at header bad
    rw [Bytes.word16At_drop, Nat.add_comm] at given
    exact .badLength (by omega) given (by omega)

theorem FaultAt.lt_length {place : Nat} {fault : AttributeError}
    (faulty : FaultAt stream place fault) : place < stream.length := by
  cases faulty with
  | truncated some few => exact some
  | badLength header given bad => omega

theorem FaultAt.place_unique {place other : Nat} {fault : AttributeError}
    (faulty : FaultAt stream place fault) (too : FaultAt stream other fault) : place = other := by
  cases faulty <;> cases too <;> rfl

/-- A stream that breaks is not read any further. -/
theorem Breaks.parse_eq {place : Nat} {fault : AttributeError}
    (breaks : Breaks stream place fault) :
    parse stream = .error fault := by
  obtain ⟨found, read⟩ := breaks.front
  obtain ⟨records, made, -⟩ := exists_stream read
  have length : (stream.take place).length = place :=
    List.length_take_of_le (Nat.le_of_lt breaks.fault.lt_length)
  have uncut : stream.drop place = [] ∨ 4 ∣ (stream.take place).length :=
    .inr (length.symm ▸ breaks.aligned)
  have passed := made.parseAt_append 0 uncut
  rw [List.take_append_drop, length, Nat.zero_add, breaks.fault.parseAt_drop] at passed
  exact passed

/-- What is read behind a record is read with the record in front of it. -/
theorem exists_parse_take (stands : Stands stream) {place : Nat} {tail : List Attribute}
    (read : parse ((behind stream).take place) = .ok tail) :
    ∃ found, parse (stream.take (place + align (declared stream))) = .ok found := by
  have length := length_frontRecord stands
  have wider := le_align (declared stream)
  have headed : ((frontRecord stream).header ++ (frontRecord stream).data).length =
      declared stream := by rw [List.length_append, Record.length_header, length]
  have split : stream.take (place + align (declared stream)) =
      (frontRecord stream).header ++ (frontRecord stream).data ++
        (stream.drop (declared stream)).take
          (place + align (declared stream) - declared stream) := by
    refine (congrArg (List.take _) (frontRecord_append stands)).symm.trans ?_
    rw [List.take_append, headed, List.take_of_length_le (by omega)]
  have rest : ((stream.drop (declared stream)).take
      (place + align (declared stream) - declared stream)).drop
        (align (declared stream) - declared stream) = (behind stream).take place := by
    have left : place + align (declared stream) - declared stream -
        (align (declared stream) - declared stream) = place := by omega
    rw [List.drop_take, left, List.drop_drop, Nat.add_sub_of_le wider, behind]
  refine ⟨(frontRecord stream).reading :: tail, ?_⟩
  rw [parse, split, Record.parseAt_append 0 (fits_frontRecord stands), length, rest, parseAt_add,
    ← parse, read]
  rfl

/-- A stream that is not read breaks at some place. -/
theorem exists_breaks {stream : Bytes} {fault : AttributeError}
    (failed : parse stream = .error fault) : ∃ place, Breaks stream place fault := by
  have front : ∃ found, parse (stream.take 0) = .ok found := ⟨[], parseAt_nil 0⟩
  by_cases empty : stream = []
  · subst empty
    rw [parse, parseAt_nil] at failed
    cases failed
  by_cases stands : Stands stream
  · -- The fault is behind the first record, where the rest of the stream breaks.
    have shifted : parse stream = ((parse (behind stream)).mapError
        (AttributeError.behind (align (declared stream)))).map
          ((frontRecord stream).reading :: ·) := by
      rw [parse, parseAt_of_stands 0 stands, parseAt_add, parse]
    cases later : parse (behind stream) with
    | ok tail =>
      rw [shifted, later] at failed
      cases failed
    | error cause =>
      rw [shifted, later] at failed
      obtain rfl := Except.error.inj failed
      obtain ⟨place, breaks⟩ := exists_breaks later
      obtain ⟨tail, read⟩ := breaks.front
      refine ⟨place + align (declared stream), ?_, exists_parse_take stands read,
        breaks.fault.shift⟩
      exact Nat.dvd_add breaks.aligned (Nat.dvd_mul_left 4 _)
  · by_cases header : 4 ≤ stream.length
    · rw [parse, parseAt_of_broken 0 header stands] at failed
      obtain rfl := Except.error.inj failed
      have bad : declared stream < 4 ∨ stream.length < 0 + declared stream := by
        unfold Stands at stands
        omega
      exact ⟨0, Nat.dvd_zero 4, front, .badLength (by omega) rfl bad⟩
    · rw [parse, parseAt_of_cut 0 empty (by omega)] at failed
      obtain rfl := Except.error.inj failed
      exact ⟨0, Nat.dvd_zero 4, front, .truncated (List.length_pos_of_ne_nil empty) (by omega)⟩
  termination_by stream.length
  decreasing_by exact length_behind_lt stands

end Attribute

end PacketDivert.Netlink
