import PacketDivert.Netlink.Queue
import PacketDivert.Proofs.Netlink.AttributeGrammar
import PacketDivert.Proofs.Netlink.CheckedWords
import PacketDivert.Proofs.Netlink.FirstFault

/-! Datagrams read with checked words, in loops whose rounds are counted out before they begin. All
goes well, unless a code is negated that has no negation. -/

namespace PacketDivert.Netlink

namespace Message

/-- The message at the front of a stream. -/
def front (stream : Bytes) : Message where
  kind := Bytes.word16At stream 4
  sequence := Bytes.word32At stream 8
  body := bodyOf stream

/-- A status whose code is the least, the only one that has no negation. -/
structure Unnegated (message : Message) : Prop where
  status : message.kind = statusKind
  whole : 4 ≤ message.body.length
  least : (Bytes.word32At message.body 0).toInt32 = Int32.minValue

/-- A status with the least code stands behind messages that are read. -/
inductive MeetsUnnegated : Bytes → Prop where
  | here {stream : Bytes} (stands : Stands stream) (least : (front stream).Unnegated) :
      MeetsUnnegated stream
  | later {stream : Bytes} {report? : Option PacketReport} (stands : Stands stream)
      (read : PacketReport.ofFrame (.ok (front stream)) = .ok report?)
      (more : MeetsUnnegated (behind stream)) : MeetsUnnegated stream

end Message

namespace Words

variable {α ε : Type}

/-- Takes entries one after the other, each at the offset that the one before it gives, until none
is left or one has a fault. What they bring is put together. -/
def loop (entry : UInt64 → Except Mishap (Except ε (Option (List α × UInt64)))) :
    (rounds : Nat) → UInt64 → Except Mishap (Except ε (List α))
  | 0, _ => .error .endless
  | rounds + 1, offset => do
    match ← entry offset with
    | .error fault => .ok (.error fault)
    | .ok none => .ok (.ok [])
    | .ok (some (found, next)) =>
      let others ← loop entry rounds next
      .ok (others.map (found ++ ·))

/-- The attribute at an offset, and the offset behind it. -/
def nextAttribute (buffer : Bytes) (offset : UInt64) :
    Except Mishap (Except AttributeError (Option (List Attribute × UInt64))) := do
  if size buffer ≤ offset then .ok (.ok none)
  else
    let start ← add offset 4
    if size buffer < start then .ok (.error (.truncated offset.toNat))
    else
      let header ← slice buffer offset start
      let length ← word16 header 0
      let written ← word16 header 2
      let stop ← add offset length.toUInt64
      if length < 4 ∨ size buffer < stop then
        .ok (.error (.badLength offset.toNat length.toNat))
      else
        let data ← slice buffer start stop
        let next ← advance buffer offset length.toUInt64
        .ok (.ok (some ([Attribute.ofWritten written data], min (size buffer) next)))

/-- A round of the loop takes at least the four bytes of a header. -/
def attributes (stream : Bytes) : Except Mishap (Except AttributeError (List Attribute)) :=
  loop (nextAttribute stream) (stream.length / 4 + 1) 0

/-- The message at an offset, and the offset behind it. -/
def nextMessage (buffer : Bytes) (offset : UInt64) :
    Except Mishap (Except SystemError (Option (Message × UInt64))) := do
  let start ← add offset 16
  if size buffer < start then .ok (.ok none)
  else
    let header ← slice buffer offset start
    let length ← word32 header 0
    let kind ← word16 header 4
    let sequence ← word32 header 8
    let stop ← add offset length.toUInt64
    if length < 16 ∨ size buffer < stop then
      .ok (.error (Message.badLength offset.toNat length.toNat))
    else
      let body ← slice buffer start stop
      let next ← advance buffer offset length.toUInt64
      .ok (.ok (some ({ kind, sequence, body }, next)))

def status (body : Bytes) : Except Mishap (Except SystemError Unit) := do
  if size body < 4 then .ok (.error (.invalidData "short netlink error message"))
  else
    let front ← slice body 0 4
    let code ← word32 front 0
    if code.toInt32 = 0 then .ok (.ok ())
    else
      let number ← negate code.toInt32
      .ok (.error (.code number))

def report (body : Bytes) : Except Mishap (Except SystemError PacketReport) := do
  if size body < 4 then .ok (.ok {})
  else
    let stream ← slice body 4 (size body)
    match ← attributes stream with
    | .error fault => .ok (.error (.invalidData fault.message))
    | .ok found => .ok (.ok (found.foldl PacketReport.add {}))

/-- What a message brings. -/
def brings (message : Message) : Except Mishap (Except SystemError (Option PacketReport)) := do
  if message.kind = Message.statusKind then
    let done ← status message.body
    .ok (done.map fun _ => none)
  else if message.kind = MessageKind.packet.code then
    let report ← report message.body
    .ok (report.map some)
  else .ok (.ok none)

/-- What the message at an offset brings, and the offset behind it. -/
def nextReport (buffer : Bytes) (offset : UInt64) :
    Except Mishap (Except SystemError (Option (List PacketReport × UInt64))) := do
  match ← nextMessage buffer offset with
  | .error fault => .ok (.error fault)
  | .ok none => .ok (.ok none)
  | .ok (some (message, next)) =>
    let brought ← brings message
    .ok (brought.map fun report? => some (report?.toList, next))

/-- A round of the loop takes at least the sixteen bytes of a header. -/
def reports (datagram : Bytes) : Except Mishap (Except SystemError (List PacketReport)) :=
  loop (nextReport datagram) (datagram.length / 16 + 1) 0

variable {buffer : Bytes} {offset : Nat}

theorem nextAttribute_of_end (buffer : Bytes) :
    nextAttribute buffer (.ofNat buffer.length) = .ok (.ok none) :=
  if_pos (UInt64.le_refl _)

/-- The attribute at an offset is the one at the front of what stands there. -/
theorem nextAttribute_eq (roomy : buffer.length < 2 ^ 63) (inside : offset < buffer.length)
    {stream : Bytes} (rest : buffer.drop offset = stream) :
    nextAttribute buffer (.ofNat offset) =
      if stream.length < 4 then .ok (.error (.truncated offset))
      else if Attribute.Stands stream then
        .ok (.ok (some ([(Attribute.frontRecord stream).reading],
          .ofNat (min buffer.length (offset + align (Attribute.declared stream))))))
      else .ok (.error (.badLength offset (Attribute.declared stream))) := by
  have left : stream.length = buffer.length - offset := by
    rw [← rest, List.length_drop]
  have unspent : ¬size buffer ≤ .ofNat offset := by
    rw [size_le_ofNat roomy (by omega)]
    omega
  have start : add (.ofNat offset) 4 = .ok (.ofNat (offset + 4)) := @add_ofNat offset 4 (by omega)
  rw [nextAttribute, if_neg unspent, start, ok_bind, toNat_ofNat (by omega)]
  by_cases cut : stream.length < 4
  · rw [if_pos cut, if_pos ((size_lt_ofNat roomy (by omega)).mpr (by omega))]
  have whole : 4 ≤ stream.length := by omega
  have header : slice buffer (.ofNat offset) (.ofNat (offset + 4)) = .ok (stream.take 4) :=
    @slice_ofNat buffer offset roomy stream rest 0 4 (by omega) (by omega)
  have wide : (Bytes.word16At stream 0).toUInt64 = .ofNat (Attribute.declared stream) :=
    (UInt64.ofNat_uInt16ToNat _).symm
  have bound : Attribute.declared stream < 2 ^ 16 := (Bytes.word16At stream 0).toNat_lt
  have padded := align_lt (Attribute.declared stream)
  have misfit : (Bytes.word16At stream 0 < 4 ∨
      size buffer < .ofNat (offset + Attribute.declared stream)) ↔ ¬Attribute.Stands stream := by
    have few : Bytes.word16At stream 0 < 4 ↔ Attribute.declared stream < 4 :=
      UInt16.lt_iff_toNat_lt
    rw [few, size_lt_ofNat roomy (by omega), Attribute.Stands, left]
    omega
  rw [if_neg cut, if_neg (mt (size_lt_ofNat roomy (by omega)).mp (by omega)), header, ok_bind,
    word16_take (by omega) whole, ok_bind, word16_take (by omega) whole, ok_bind, wide,
    add_ofNat (by omega), ok_bind]
  by_cases stands : Attribute.Stands stream
  · obtain ⟨least, fits⟩ := id stands
    rw [if_neg (mt misfit.mp (not_not_intro stands)), slice_ofNat roomy rest least (by omega),
      ok_bind, advance_ofNat roomy (by omega), ok_bind, min_size_ofNat roomy (by omega),
      if_pos stands]
    rfl
  · rw [if_pos (misfit.mpr stands), if_neg stands]
    rfl

/-- Behind the end nothing is read, wherever it is. -/
theorem parseAt_min (buffer : Bytes) (place : Nat) :
    Attribute.parseAt (min buffer.length place) (buffer.drop (min buffer.length place)) =
      Attribute.parseAt place (buffer.drop place) := by
  by_cases beyond : buffer.length ≤ place
  · rw [Nat.min_eq_left beyond, List.drop_length, List.drop_of_length_le beyond,
      Attribute.parseAt_nil, Attribute.parseAt_nil]
  · rw [Nat.min_eq_right (by omega)]

/-- The attributes from an offset on are those of what stands there. They are read in as many rounds
as there is room for headers, and one more. -/
theorem loop_nextAttribute (roomy : buffer.length < 2 ^ 63) {rounds : Nat}
    (inside : offset ≤ buffer.length) (enough : (buffer.drop offset).length < 4 * rounds) :
    loop (nextAttribute buffer) rounds (.ofNat offset) =
      .ok (Attribute.parseAt offset (buffer.drop offset)) := by
  induction rounds generalizing offset with
  | zero => omega
  | succ rounds inductionHypothesis =>
    have left : (buffer.drop offset).length = buffer.length - offset := List.length_drop
    by_cases spent : offset = buffer.length
    · rw [loop, spent, nextAttribute_of_end, ok_bind, List.drop_length, Attribute.parseAt_nil]
    rw [loop, nextAttribute_eq roomy (by omega) rfl]
    by_cases cut : (buffer.drop offset).length < 4
    · have some : buffer.drop offset ≠ [] := by
        rw [ne_eq, List.drop_eq_nil_iff]
        omega
      rw [if_pos cut, ok_bind, Attribute.parseAt_of_cut offset some cut]
    by_cases stands : Attribute.Stands (buffer.drop offset)
    · have least := stands.1
      have padded := le_align (Attribute.declared (buffer.drop offset))
      have later := inductionHypothesis
        (Nat.min_le_left buffer.length (offset + align (Attribute.declared (buffer.drop offset))))
        (by rw [List.length_drop]; omega)
      rw [if_neg cut, if_pos stands, ok_bind, Attribute.parseAt_of_stands offset stands,
        Attribute.behind, List.drop_drop]
      dsimp only
      rw [later, ok_bind, parseAt_min]
      rfl
    · rw [if_neg cut, if_neg stands, ok_bind,
        Attribute.parseAt_of_broken offset (by omega) stands]

theorem attributes_eq {stream : Bytes} (roomy : stream.length < 2 ^ 63) :
    attributes stream = .ok (Attribute.parse stream) := by
  have enough : (stream.drop 0).length < 4 * (stream.length / 4 + 1) := by
    rw [List.drop_zero]
    omega
  exact loop_nextAttribute roomy (Nat.zero_le _) enough

/-- The message at an offset is the one at the front of what stands there. -/
theorem nextMessage_eq (roomy : buffer.length < 2 ^ 63) (near : offset ≤ buffer.length + 3)
    {stream : Bytes} (rest : buffer.drop offset = stream) :
    nextMessage buffer (.ofNat offset) =
      if stream.length < 16 then .ok (.ok none)
      else if Message.Stands stream then
        .ok (.ok (some (Message.front stream,
          .ofNat (offset + align (Message.declared stream)))))
      else .ok (.error (Message.badLength offset (Message.declared stream))) := by
  have left : stream.length = buffer.length - offset := by
    rw [← rest, List.length_drop]
  have start : add (.ofNat offset) 16 = .ok (.ofNat (offset + 16)) :=
    @add_ofNat offset 16 (by omega)
  rw [nextMessage, start, ok_bind, toNat_ofNat (by omega)]
  by_cases cut : stream.length < 16
  · rw [if_pos cut, if_pos ((size_lt_ofNat roomy (by omega)).mpr (by omega))]
  have whole : 16 ≤ stream.length := by omega
  have header : slice buffer (.ofNat offset) (.ofNat (offset + 16)) = .ok (stream.take 16) :=
    @slice_ofNat buffer offset roomy stream rest 0 16 (by omega) (by omega)
  have wide : (Bytes.word32At stream 0).toUInt64 = .ofNat (Message.declared stream) :=
    (UInt64.ofNat_uInt32ToNat _).symm
  have bound : Message.declared stream < 2 ^ 32 := (Bytes.word32At stream 0).toNat_lt
  have misfit : (Bytes.word32At stream 0 < 16 ∨
      size buffer < .ofNat (offset + Message.declared stream)) ↔ ¬Message.Stands stream := by
    have few : Bytes.word32At stream 0 < 16 ↔ Message.declared stream < 16 :=
      UInt32.lt_iff_toNat_lt
    rw [few, size_lt_ofNat roomy (by omega), Message.Stands, left]
    omega
  rw [if_neg cut, if_neg (mt (size_lt_ofNat roomy (by omega)).mp (by omega)), header, ok_bind,
    word32_take (by omega) whole, ok_bind, word16_take (by omega) whole, ok_bind,
    word32_take (by omega) whole, ok_bind, wide, add_ofNat (by omega), ok_bind]
  by_cases stands : Message.Stands stream
  · obtain ⟨least, fits⟩ := id stands
    rw [if_neg (mt misfit.mp (not_not_intro stands)), slice_ofNat roomy rest least (by omega),
      ok_bind, advance_ofNat roomy (by omega), ok_bind, if_pos stands]
    rfl
  · rw [if_pos (misfit.mpr stands), if_neg stands]
    rfl

theorem size_lt_four {body : Bytes} (roomy : body.length < 2 ^ 63) :
    size body < 4 ↔ body.length < 4 := @size_lt_ofNat body roomy 4 (by omega)

/-- A status that has a code. -/
theorem status_of_whole {body : Bytes} (roomy : body.length < 2 ^ 63) (whole : 4 ≤ body.length) :
    status body =
      if (Bytes.word32At body 0).toInt32 = 0 then .ok (.ok ())
      else
        negate (Bytes.word32At body 0).toInt32 >>= fun number => .ok (.error (.code number)) := by
  have front : slice body 0 4 = .ok (body.take 4) :=
    @slice_ofNat body 0 roomy body rfl 0 4 (by omega) (by omega)
  have room : ¬size body < 4 := mt (size_lt_four roomy).mp (by omega)
  rw [status, if_neg room, front, ok_bind, word32_take (by omega) whole, ok_bind]

theorem status_of_negated {body : Bytes} (roomy : body.length < 2 ^ 63)
    (negated : 4 ≤ body.length → (Bytes.word32At body 0).toInt32 ≠ Int32.minValue) :
    status body = .ok (Message.status body) := by
  have front : (body.take 4).length < 4 ↔ body.length < 4 := by
    rw [List.length_take]
    omega
  by_cases short : body.length < 4
  · rw [status, if_pos ((size_lt_four roomy).mpr short), Message.status, if_pos (front.mpr short)]
  rw [status_of_whole roomy (by omega), Message.status, if_neg (mt front.mp short)]
  dsimp only
  by_cases zero : (Bytes.word32At body 0).toInt32 = 0
  · rw [if_pos zero, if_pos zero]
  · rw [if_neg zero, if_neg zero, negate, if_neg (negated (by omega)), ok_bind]

theorem status_of_least {body : Bytes} (roomy : body.length < 2 ^ 63) (whole : 4 ≤ body.length)
    (least : (Bytes.word32At body 0).toInt32 = Int32.minValue) :
    status body = .error .overflow := by
  have nonzero : Int32.minValue ≠ 0 := by decide
  rw [status_of_whole roomy whole, least, if_neg nonzero, negate, if_pos rfl]
  rfl

theorem report_eq {body : Bytes} (roomy : body.length < 2 ^ 63) :
    report body = .ok (PacketReport.ofBody body) := by
  by_cases short : body.length < 4
  · rw [report, if_pos ((size_lt_four roomy).mpr short), PacketReport.ofBody,
      List.drop_of_length_le (by omega), Attribute.parse, Attribute.parseAt_nil]
    rfl
  have rest : slice body 4 (size body) = .ok (body.drop 4) := by
    have cut : slice body (.ofNat (0 + 4)) (.ofNat (0 + body.length)) =
        .ok ((body.take body.length).drop 4) :=
      slice_ofNat roomy List.drop_zero (by omega) (by omega)
    rwa [Nat.zero_add, Nat.zero_add, List.take_length] at cut
  have inner : (body.drop 4).length < 2 ^ 63 := by
    rw [List.length_drop]
    omega
  rw [report, if_neg (mt (size_lt_four roomy).mp short), rest, ok_bind, attributes_eq inner,
    ok_bind, PacketReport.ofBody]
  cases Attribute.parse (body.drop 4) <;> rfl

variable {message : Message}

theorem brings_eq (roomy : message.body.length < 2 ^ 63) (negated : ¬message.Unnegated) :
    brings message = .ok (PacketReport.ofFrame (.ok message)) := by
  rw [brings, PacketReport.ofFrame]
  by_cases answers : message.kind = Message.statusKind
  · have negation : 4 ≤ message.body.length →
        (Bytes.word32At message.body 0).toInt32 ≠ Int32.minValue :=
      fun whole least => negated ⟨answers, whole, least⟩
    rw [if_pos answers, if_pos answers, status_of_negated roomy negation, ok_bind]
  rw [if_neg answers, if_neg answers]
  by_cases packet : message.kind = MessageKind.packet.code
  · rw [if_pos packet, if_pos packet, report_eq roomy, ok_bind]
  · rw [if_neg packet, if_neg packet]

theorem brings_of_unnegated (roomy : message.body.length < 2 ^ 63) (unnegated : message.Unnegated) :
    brings message = .error .overflow := by
  rw [brings, if_pos unnegated.status, status_of_least roomy unnegated.whole unnegated.least]
  rfl

end Words

namespace Message

/-- As it wraps around, the least code is its own negation. -/
theorem Unnegated.ofFrame {message : Message} (unnegated : message.Unnegated) :
    PacketReport.ofFrame (.ok message) = .error (.code Int32.minValue) := by
  have whole : ¬(message.body.take 4).length < 4 := by
    have four := unnegated.whole
    rw [List.length_take]
    omega
  have nonzero : Int32.minValue ≠ 0 := by decide
  have wrapped : -Int32.minValue = Int32.minValue := by decide
  rw [PacketReport.ofFrame, if_pos unnegated.status, Message.status, if_neg whole, unnegated.least]
  dsimp only
  rw [if_neg nonzero, wrapped]
  rfl

theorem MeetsUnnegated.ofFrames {stream : Bytes} (meets : MeetsUnnegated stream) (offset : Nat) :
    PacketReport.ofFrames (framesAt offset stream) = .error (.code Int32.minValue) := by
  induction meets generalizing offset with
  | @here stream stands least =>
    rw [framesAt_of_stands offset stands, PacketReport.ofFrames_cons, ← front, least.ofFrame]
  | @later stream report? stands read more inductionHypothesis =>
    rw [framesAt_of_stands offset stands, PacketReport.ofFrames_cons, ← front, read]
    dsimp only
    rw [inductionHypothesis]
    rfl

end Message

namespace Words

variable {buffer : Bytes} {offset : Nat}

theorem length_body_le (stream : Bytes) : (Message.front stream).body.length ≤ stream.length := by
  rw [Message.front, Message.bodyOf, List.length_drop, List.length_take]
  omega

/-- What the message at an offset brings is what the one at the front of what stands there
brings. -/
theorem nextReport_of_stands (roomy : buffer.length < 2 ^ 63) (near : offset ≤ buffer.length + 3)
    {stream : Bytes} (rest : buffer.drop offset = stream) (stands : Message.Stands stream) :
    nextReport buffer (.ofNat offset) =
      (brings (Message.front stream) >>= fun brought => .ok (brought.map fun report? =>
        some (report?.toList, .ofNat (offset + align (Message.declared stream))))) := by
  rw [nextReport, nextMessage_eq roomy near rest, if_neg stands.header, if_pos stands, ok_bind]

/-- The messages from an offset on are read as what stands there, unless a code has no negation.
They are read in as many rounds as there is room for headers, and one more. -/
theorem loop_nextReport (roomy : buffer.length < 2 ^ 63) {rounds : Nat}
    (near : offset ≤ buffer.length + 3) (enough : (buffer.drop offset).length < 16 * rounds)
    (negated : ¬Message.MeetsUnnegated (buffer.drop offset)) :
    loop (nextReport buffer) rounds (.ofNat offset) =
      .ok (PacketReport.ofFrames (Message.framesAt offset (buffer.drop offset))) := by
  induction rounds generalizing offset with
  | zero => omega
  | succ rounds inductionHypothesis =>
    have left : (buffer.drop offset).length = buffer.length - offset := List.length_drop
    by_cases cut : (buffer.drop offset).length < 16
    · rw [loop, nextReport, nextMessage_eq roomy near rfl, if_pos cut, ok_bind, ok_bind,
        Message.framesAt_of_spent offset cut, PacketReport.ofFrames]
    by_cases stands : Message.Stands (buffer.drop offset)
    · obtain ⟨least, fits⟩ := id stands
      have padded := le_align (Message.declared (buffer.drop offset))
      have nearer := align_lt (Message.declared (buffer.drop offset))
      have calm : ¬(Message.front (buffer.drop offset)).Unnegated :=
        fun least => negated (.here stands least)
      have body := length_body_le (buffer.drop offset)
      have frames := Message.framesAt_of_stands offset stands
      rw [← Message.front] at frames
      rw [loop, nextReport_of_stands roomy near rfl stands, brings_eq (by omega) calm, ok_bind,
        ok_bind, frames, PacketReport.ofFrames_cons]
      cases brought : PacketReport.ofFrame (.ok (Message.front (buffer.drop offset))) with
      | error fault => rfl
      | ok report? =>
        have later := @inductionHypothesis (offset + align (Message.declared (buffer.drop offset)))
          (by omega) (by rw [List.length_drop]; omega)
          (by
            rw [← List.drop_drop]
            exact fun meets => negated (.later stands brought meets))
        rw [Except.map]
        dsimp only
        rw [later, ok_bind, Message.behind, List.drop_drop]
    · rw [loop, nextReport, nextMessage_eq roomy near rfl, if_neg cut, if_neg stands, ok_bind,
        ok_bind, Message.framesAt_of_broken offset (by omega) stands, PacketReport.ofFrames]

theorem loop_nextReport_of_meets (roomy : buffer.length < 2 ^ 63) {stream : Bytes}
    (meets : Message.MeetsUnnegated stream) {rounds : Nat} (near : offset ≤ buffer.length + 3)
    (rest : buffer.drop offset = stream) (enough : stream.length < 16 * rounds) :
    loop (nextReport buffer) rounds (.ofNat offset) = .error .overflow := by
  induction meets generalizing offset rounds with
  | @here stream stands least =>
    obtain ⟨before, rfl⟩ : ∃ before, rounds = before + 1 :=
      Nat.exists_eq_add_one_of_ne_zero (by omega)
    have left : stream.length = buffer.length - offset := by
      rw [← rest, List.length_drop]
    have body := length_body_le stream
    rw [loop, nextReport_of_stands roomy near rest stands, brings_of_unnegated (by omega) least]
    rfl
  | @later stream report? stands read more inductionHypothesis =>
    obtain ⟨before, rfl⟩ : ∃ before, rounds = before + 1 :=
      Nat.exists_eq_add_one_of_ne_zero (by omega)
    have left : stream.length = buffer.length - offset := by
      rw [← rest, List.length_drop]
    have body := length_body_le stream
    obtain ⟨least, fits⟩ := id stands
    have padded := le_align (Message.declared stream)
    have nearer := align_lt (Message.declared stream)
    have behind :
        buffer.drop (offset + align (Message.declared stream)) = Message.behind stream := by
      rw [Message.behind, ← rest, List.drop_drop]
    have calm : ¬(Message.front stream).Unnegated := by
      intro least
      cases read.symm.trans least.ofFrame
    have shorter : (Message.behind stream).length < 16 * before := by
      rw [Message.behind, List.length_drop]
      omega
    rw [loop, nextReport_of_stands roomy near rest stands, brings_eq (by omega) calm, ok_bind, read,
      ok_bind, Except.map]
    dsimp only
    rw [inductionHypothesis (by omega) behind shorter]
    rfl

theorem reports_eq {datagram : Bytes} (roomy : datagram.length < 2 ^ 63)
    (negated : ¬Message.MeetsUnnegated datagram) :
    reports datagram = .ok (PacketReport.ofDatagram datagram) := by
  have enough : datagram.length < 16 * (datagram.length / 16 + 1) := by omega
  exact loop_nextReport roomy (Nat.zero_le _) enough negated

theorem reports_of_meets {datagram : Bytes} (roomy : datagram.length < 2 ^ 63)
    (meets : Message.MeetsUnnegated datagram) : reports datagram = .error .overflow := by
  have enough : datagram.length < 16 * (datagram.length / 16 + 1) := by omega
  exact loop_nextReport_of_meets roomy meets (Nat.zero_le _) rfl enough

end Words

/-- A datagram is read with checked words just as it is received: in the rounds that are counted
out, within the buffer and every word, with no offset more than 3 behind the end. There is one
exception, a status with the least code behind messages that are read. That code has no negation,
and wraps around to itself. Any other code that is not 0 is reported as its negation. -/
theorem checked_reading (datagram : Bytes) :
    let buffer := datagram.take Kernel.readLength
    (¬Message.MeetsUnnegated buffer → Words.reports buffer = .ok (BoundQueue.receive datagram)) ∧
    (Message.MeetsUnnegated buffer → Words.reports buffer = .error .overflow ∧
      BoundQueue.receive datagram = .error (.code Int32.minValue)) ∧
    ∀ (code : Int32) (more : Bytes), code ≠ 0 → ∃ number,
      Message.status (Bytes.le32 code.toUInt32 ++ more) = .error (.code number) ∧
      (number.toInt = -code.toInt ↔ code ≠ Int32.minValue) := by
  intro buffer
  have length : buffer.length ≤ Kernel.readLength := List.length_take_le ..
  have roomy : buffer.length < 2 ^ 63 := Nat.lt_of_le_of_lt length (by decide)
  refine ⟨Words.reports_eq roomy, ?_, ?_⟩
  · intro meets
    exact ⟨Words.reports_of_meets roomy meets, meets.ofFrames 0⟩
  · intro code more nonzero
    exact ⟨-code, Message.status_of_ne_zero nonzero more, Message.toInt_neg_iff code⟩

/-- A status with the least code: there is no room for the number of its error, and the number that
is reported is not that of the code without its sign. -/
theorem least_code_overflows :
    let datagram := Message.write Message.statusKind 0 3 0 (Bytes.le32 Int32.minValue.toUInt32)
    datagram.length ≤ Kernel.readLength ∧ Words.reports datagram = .error .overflow ∧
      BoundQueue.receive datagram = .error (.code Int32.minValue) ∧
      Int32.minValue.toInt ≠ -Int32.minValue.toInt := by
  intro datagram
  have least : (Message.front datagram).Unnegated := ⟨by decide, by decide, by decide⟩
  have meets : Message.MeetsUnnegated datagram := .here (by decide) least
  have whole : datagram.take Kernel.readLength = datagram := List.take_of_length_le (by decide)
  refine ⟨by decide, Words.reports_of_meets (by decide) meets, ?_, by decide⟩
  rw [BoundQueue.receive, whole]
  exact meets.ofFrames 0

end PacketDivert.Netlink
