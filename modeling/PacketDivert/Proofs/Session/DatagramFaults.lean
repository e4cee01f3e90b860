import PacketDivert.Proofs.Netlink.Datagrams
import PacketDivert.Proofs.Netlink.MessageReading
import PacketDivert.Proofs.Session.Deeds
import PacketDivert.Session.Bench

namespace PacketDivert

open Netlink (Attribute BoundQueue ConntrackKind Conveys Kernel Message PacketReport Record)

namespace Netlink.PacketReport

/-- What is read of a datagram in front of its first fault, and that fault. -/
def untilFault : List (Except SystemError Message) → List PacketReport × Option SystemError
  | [] => ([], none)
  | frame :: frames =>
    match ofFrame frame with
    | .error fault => ([], some fault)
    | .ok report? => (report?.toList ++ (untilFault frames).1, (untilFault frames).2)

/-- A fault decides the whole, whatever was read in front of it. -/
theorem ofFrames_eq_untilFault (frames : List (Except SystemError Message)) :
    ofFrames frames =
      match (untilFault frames).2 with
      | none => .ok (untilFault frames).1
      | some fault => .error fault := by
  induction frames with
  | nil => rfl
  | cons frame frames inductionHypothesis =>
    rw [ofFrames_cons, untilFault, inductionHypothesis]
    cases ofFrame frame with
    | error fault => rfl
    | ok report? => cases (untilFault frames).2 <;> rfl

end Netlink.PacketReport

variable {ω : Type}

/-- A deed about a packet: a verdict on it, or its way to the callback. -/
def Deed.Concerns (report : PacketReport) : Deed ω → Prop
  | .answered request _ => report.id = some request.id
  | .notified _ (.packet packet) _ =>
    report.id = some packet.id ∧ report.payload = some packet.data
  | .notified _ (.error _) _ => False

/-- A deed that carries out a task. -/
def Deed.Does (task : Task) : Deed ω → Prop
  | .answered request _ => task = .settle request
  | .notified _ notice _ => task = .tell notice

theorem CarriedOut.does_head {callback : Callback ω} {task : Task} {tasks : List Task}
    {deeds : List (Deed ω)} {flow : Flow}
    (carried : CarriedOut callback (task :: tasks) deeds flow) :
    ∃ deed ∈ deeds, deed.Does task := by
  cases carried with
  | settled rest => exact ⟨_, List.mem_cons_self, rfl⟩
  | reported rest => exact ⟨_, List.mem_cons_self, rfl⟩
  | reportedLast => exact ⟨_, List.mem_cons_self, rfl⟩
  | told rest => exact ⟨_, List.mem_cons_self, rfl⟩
  | toldLast => exact ⟨_, List.mem_cons_self, rfl⟩

/-- Only a report without an id calls for nothing. -/
theorem reportTask?_eq_none_iff (localTraffic : Bool) (session : Nat) (report : PacketReport) :
    reportTask? localTraffic session report = none ↔ report.id = none := by
  obtain ⟨id, payload, conntrack⟩ := report
  unfold reportTask?
  cases id with
  | none => simp
  | some id => cases payload.filter (20 ≤ ·.length) <;> cases conntrack <;> simp

/-- What a report calls for is about the packet that is reported. -/
theorem Deed.concerns_of_does {localTraffic : Bool} {session : Nat} {report : PacketReport}
    {task : Task} (called : reportTask? localTraffic session report = some task) {deed : Deed ω}
    (does : deed.Does task) : deed.Concerns report := by
  obtain ⟨id, payload, conntrack⟩ := report
  unfold reportTask? at called
  cases id with
  | none => cases called
  | some id =>
    cases whole : payload.filter (20 ≤ ·.length) with
    | none =>
      simp only [whole, Option.some.injEq] at called
      subst called
      cases deed with
      | answered request result => cases does; rfl
      | notified callback notice flow => cases does
    | some bytes =>
      have held : payload = some bytes := (Option.filter_eq_some_iff.mp whole).1
      cases conntrack with
      | none =>
        simp only [whole, Option.some.injEq] at called
        subst called
        cases deed with
        | answered request result => cases does; rfl
        | notified callback notice flow => cases does
      | some conntrack =>
        simp only [whole, Option.some.injEq] at called
        subst called
        cases deed with
        | answered request result => cases does
        | notified callback notice flow =>
          cases does
          exact ⟨rfl, held⟩

/-- A fault calls for nothing that is about a packet. -/
theorem Deed.not_concerns_of_fault {localTraffic : Bool} {session : Nat} {callback : Callback ω}
    {fault : SystemError} {deeds : List (Deed ω)} {flow : Flow}
    (carried : CarriedOut callback (arrivalTasks localTraffic session (.error fault)) deeds flow)
    (report : PacketReport) : ∀ deed ∈ deeds, ¬deed.Concerns report := by
  by_cases full : fault = .noBufferSpace
  · simp only [arrivalTasks, full, ↓reduceIte] at carried
    cases carried with
    | done => exact fun deed member => absurd member List.not_mem_nil
  · simp only [arrivalTasks, full, ↓reduceIte] at carried
    intro deed member concerns
    cases carried with
    | told rest =>
      cases rest with
      | done =>
        rw [List.mem_singleton.mp member] at concerns
        exact concerns
    | toldLast =>
      rw [List.mem_singleton.mp member] at concerns
      exact concerns

namespace Dispatcher

/-- The deeds of a dispatcher begin with what the reports call for, one after the other, unless its
callback says stop. -/
def Attends (dispatcher : Dispatcher ω) (reports : List PacketReport) (deeds : List (Deed ω)) :
    Prop :=
  ∃ first rest flow, deeds = first ++ rest ∧
    CarriedOut dispatcher.callback
      (reports.filterMap (reportTask? dispatcher.localTraffic dispatcher.session)) first flow

/-- Of reports that call for something, the first is attended to. -/
theorem Attends.exists_concerns {dispatcher : Dispatcher ω} {reports : List PacketReport}
    {deeds : List (Deed ω)} (attends : dispatcher.Attends reports deeds)
    (answerable : ∃ report ∈ reports, report.id ≠ none) :
    ∃ report ∈ reports, ∃ deed ∈ deeds, deed.Concerns report := by
  obtain ⟨first, rest, flow, rfl, carried⟩ := attends
  cases tasks : reports.filterMap (reportTask? dispatcher.localTraffic dispatcher.session) with
  | nil =>
    obtain ⟨report, member, identified⟩ := answerable
    have unanswered := List.filterMap_eq_nil_iff.mp tasks report member
    exact absurd ((reportTask?_eq_none_iff _ _ report).mp unanswered) identified
  | cons task others =>
    rw [tasks] at carried
    obtain ⟨deed, member, does⟩ := carried.does_head
    have called : task ∈ reports.filterMap
        (reportTask? dispatcher.localTraffic dispatcher.session) := tasks ▸ List.mem_cons_self
    obtain ⟨report, reported, calls⟩ := List.mem_filterMap.mp called
    exact ⟨report, reported, deed, List.mem_append_left rest member,
      Deed.concerns_of_does calls does⟩

/-- Nothing has to be done about reports without an id. -/
theorem attends_of_unanswerable (dispatcher : Dispatcher ω) {reports : List PacketReport}
    (unanswerable : ∀ report ∈ reports, report.id = none) (deeds : List (Deed ω)) :
    dispatcher.Attends reports deeds := by
  have nothing : reports.filterMap
      (reportTask? dispatcher.localTraffic dispatcher.session) = [] := by
    rw [List.filterMap_eq_nil_iff]
    exact fun report member => (reportTask?_eq_none_iff _ _ report).mpr (unanswerable report member)
  exact ⟨[], deeds, .proceed, rfl, nothing ▸ .done⟩

end Dispatcher

/-- The packets of a datagram that stand in front of its first fault are attended to exactly if
there is no fault, or if none of them can be answered. In a datagram with a fault a dispatcher does
what the fault calls for, and nothing about a packet. -/
theorem datagram_attended_iff [Transport ω] (dispatcher : Dispatcher ω) (datagram : Bytes)
    (world : ω) (before : List (Deed ω)) :
    let read := PacketReport.untilFault (Message.frames (datagram.take Kernel.readLength))
    let plain := dispatcher.accept (BoundQueue.receive datagram) world
    ∃ deeds,
      dispatcher.watched.accept (BoundQueue.receive datagram) ⟨world, before⟩ =
        (plain.1, ⟨plain.2, before ++ deeds⟩) ∧
      (dispatcher.Attends read.1 deeds ↔ read.2 = none ∨ ∀ report ∈ read.1, report.id = none) ∧
      ∀ fault, read.2 = some fault →
        CarriedOut dispatcher.callback
          (arrivalTasks dispatcher.localTraffic dispatcher.session (.error fault)) deeds plain.1 ∧
        ∀ report ∈ read.1, ∀ deed ∈ deeds, ¬deed.Concerns report := by
  intro read plain
  obtain ⟨deeds, watched, carried⟩ :=
    dispatcher.accept_shows (BoundQueue.receive datagram) world before
  have decided : BoundQueue.receive datagram =
      match read.2 with
      | none => .ok read.1
      | some fault => .error fault := PacketReport.ofFrames_eq_untilFault _
  refine ⟨deeds, watched, ?_⟩
  cases faulty : read.2 with
  | none =>
    rw [faulty] at decided
    rw [decided] at carried
    exact ⟨⟨fun _ => .inl rfl,
      fun _ => ⟨deeds, [], _, (List.append_nil deeds).symm, carried⟩⟩, nofun⟩
  | some fault =>
    rw [faulty] at decided
    have failed : BoundQueue.receive datagram = .error fault := decided
    have reported : CarriedOut dispatcher.callback
        (arrivalTasks dispatcher.localTraffic dispatcher.session (.error fault)) deeds plain.1 := by
      rw [← failed]
      exact carried
    have unconcerned := Deed.not_concerns_of_fault reported
    refine ⟨⟨fun attends => .inr ?_, ?_⟩, ?_⟩
    · by_contra answerable
      push Not at answerable
      obtain ⟨report, -, deed, member, concerns⟩ := attends.exists_concerns answerable
      exact unconcerned report deed member concerns
    · rintro (faultless | unanswerable)
      · cases faultless
      · exact dispatcher.attends_of_unanswerable unanswerable deeds
    · rintro other ⟨⟩
      exact ⟨reported, fun report _ => unconcerned report⟩

/-- The entry of the connection 42. -/
def trackedEntry : Bytes := Attribute.encode ConntrackKind.id.code (Bytes.be32 42)

/-- A packet of that connection. -/
def trackedReport : PacketReport where
  id := some 5
  payload := some (List.replicate 40 0x45)
  conntrack := some trackedEntry

def trackedRecords : List Record :=
  [⟨1, Bytes.be32 5 ++ [8, 0, 2]⟩, ⟨10, List.replicate 40 0x45⟩, ⟨0x800B, trackedEntry⟩]

/-- Says that a receive buffer overflowed. -/
def overflowStatus : Bytes := Message.write Message.statusKind 0 0 0 (Bytes.le32 0xFFFFFF97)

theorem trackedReport_madeOf : trackedReport.MadeOf trackedRecords := ⟨⟨[8, 0, 2], rfl⟩, rfl, rfl⟩

theorem trackedRecords_fit : ∀ record ∈ trackedRecords, record.Fits := by
  intro record member
  simp only [trackedRecords, List.mem_cons, List.not_mem_nil, or_false] at member
  rcases member with rfl | rfl | rfl <;> exact Nat.le_of_ble_eq_true rfl

theorem length_trackedRecords : (Record.encodeAll trackedRecords).length = 68 := by
  have entry : trackedEntry.length = 8 := by
    rw [trackedEntry, Attribute.length_encode, Bytes.length_be32]
    rfl
  simp only [trackedRecords, Record.encodeAll, List.length_append, Attribute.length_encode,
    List.length_replicate, Bytes.length_be32, entry, List.length_cons, List.length_nil]
  rfl

theorem untilFault_overflowStatus (offset : Nat) :
    PacketReport.untilFault (Message.framesAt offset overflowStatus) =
      ([], some .noBufferSpace) := by
  have short : 16 + (Bytes.le32 0xFFFFFF97).length < 0x100000000 := by decide
  have split := Message.framesAt_write offset Message.statusKind 0 0 0 short []
  rw [List.append_nil] at split
  rw [overflowStatus, split]
  rfl

theorem streamOf_trackedEntry : streamOf trackedEntry = 42 := by
  have read : Attribute.parse trackedEntry = .ok [Attribute.ofWritten 12 (Bytes.be32 42)] :=
    Attribute.parseAt_encode_last 0 _ (by decide)
  rw [streamOf, Netlink.conntrackId, read]
  rfl

/-- A packet that the callback is given if it arrives alone is lost if the same datagram says,
behind it, that others were lost: nothing at all is done then. -/
theorem overflow_loses_packet :
    let packet := Message.encode .packet 0 0 100 (Record.encodeAll trackedRecords)
    let dispatcher : Dispatcher DetachedTransport := {
      session := 1, localTraffic := false, shutdown := ⟨false, true⟩,
      callback := fun _ world => (.proceed, world) }
    let accept := fun datagram => dispatcher.watched.accept (BoundQueue.receive datagram) ⟨{}, []⟩
    PacketReport.untilFault (Message.frames ((packet ++ overflowStatus).take Kernel.readLength)) =
        ([trackedReport], some .noBufferSpace) ∧
      (accept packet).2.deeds = [.notified dispatcher.callback
        (.packet ⟨5, 42, List.replicate 40 0x45, 1⟩) .proceed] ∧
      accept (packet ++ overflowStatus) = (.proceed, ⟨{}, []⟩) := by
  intro packet dispatcher accept
  have attributes := length_trackedRecords
  have brings : Message.Brings packet (some trackedReport) :=
    .packet 0 0 100 trackedReport_madeOf trackedRecords_fit (by omega)
  have length : packet.length = 88 := by rw [Message.length_encode, attributes]
  have alone : BoundQueue.receive packet = .ok [trackedReport] := by
    have conveys : Conveys packet [trackedReport] := by
      simpa using @Conveys.last _ _ [] brings (Netlink.le_align _)
    have whole : packet.take Kernel.readLength = packet :=
      List.take_of_length_le (by rw [length]; decide)
    rw [BoundQueue.receive, whole]
    exact conveys.ofFrames 0
  have overflow : PacketReport.untilFault
      (Message.frames ((packet ++ overflowStatus).take Kernel.readLength)) =
        ([trackedReport], some .noBufferSpace) := by
    have whole : (packet ++ overflowStatus).take Kernel.readLength = packet ++ overflowStatus :=
      List.take_of_length_le (by rw [List.length_append, length]; decide)
    obtain ⟨frame, read, split⟩ := brings.framesAt 0 overflowStatus
    have unpadded : Netlink.align 88 - 88 = 0 := by decide
    rw [whole, Message.frames, split, PacketReport.untilFault, read, length, unpadded,
      List.drop_zero]
    dsimp only
    rw [untilFault_overflowStatus]
    rfl
  refine ⟨overflow, ?_, ?_⟩
  · have eligible : Disposition.of false trackedReport =
        .eligible 5 (List.replicate 40 0x45) trackedEntry := rfl
    simp only [accept, alone, Dispatcher.watched, Dispatcher.accept, Dispatcher.deliver,
      Dispatcher.deliverOne, dispatcher, eligible, streamOf_trackedEntry]
    rfl
  · have failed : BoundQueue.receive (packet ++ overflowStatus) = .error .noBufferSpace := by
      have decided := PacketReport.ofFrames_eq_untilFault
        (Message.frames ((packet ++ overflowStatus).take Kernel.readLength))
      rw [overflow] at decided
      exact decided
    simp only [accept, failed, Dispatcher.accept, ↓reduceIte]

end PacketDivert
