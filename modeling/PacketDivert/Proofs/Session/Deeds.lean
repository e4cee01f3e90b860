import PacketDivert.Session.Dispatcher

namespace PacketDivert

open Netlink (PacketReport VerdictRequest)

/-- What there is to do about a report: send a verdict, or tell the callback. -/
inductive Task where
  | settle (request : VerdictRequest)
  | tell (notice : Notice)
  deriving DecidableEq, Repr

/-- A report calls for nothing if it has no id, for a verdict if its packet is incomplete or its
connection is not tracked, and for the callback otherwise. -/
def reportTask? (localTraffic : Bool) (session : Nat) (report : PacketReport) : Option Task :=
  match report.id, report.payload.filter (20 ≤ ·.length), report.conntrack with
  | none, _, _ => none
  | some id, none, _ => some (.settle ⟨id, .drop, .none⟩)
  | some id, some _, none => some (.settle ⟨id, if localTraffic then .accept else .drop, .none⟩)
  | some id, some payload, some conntrack =>
    some (.tell (.packet ⟨id, (Netlink.conntrackId conntrack).getD 0, payload, session⟩))

def arrivalTasks (localTraffic : Bool) (session : Nat) : Arrival → List Task
  | .ok reports => reports.filterMap (reportTask? localTraffic session)
  | .error cause =>
    if cause = .noBufferSpace then [] else [.tell (.error (.transport cause))]

/-- What a dispatcher has done: a verdict and what the transport said to it, or a notice and what
the callback said to it. -/
inductive Deed (ω : Type) where
  | answered (request : VerdictRequest) (result : Except SystemError Unit)
  | notified (callback : Callback ω) (notice : Notice) (flow : Flow)

variable {ω : Type}

/-- Deeds that carry out tasks in their order. A verdict that fails is followed by one notice of
the failure, and nothing is done after the callback says stop. -/
inductive CarriedOut (callback : Callback ω) : List Task → List (Deed ω) → Flow → Prop where
  | done : CarriedOut callback [] [] .proceed
  | settled {tasks deeds flow request} (rest : CarriedOut callback tasks deeds flow) :
      CarriedOut callback (.settle request :: tasks) (.answered request (.ok ()) :: deeds) flow
  | reported {tasks deeds flow request cause} (rest : CarriedOut callback tasks deeds flow) :
      CarriedOut callback (.settle request :: tasks)
        (.answered request (.error cause) ::
          .notified callback (.error (.transport cause)) .proceed :: deeds) flow
  | reportedLast {tasks request cause} :
      CarriedOut callback (.settle request :: tasks)
        [.answered request (.error cause),
          .notified callback (.error (.transport cause)) .stop] .stop
  | told {tasks deeds flow notice} (rest : CarriedOut callback tasks deeds flow) :
      CarriedOut callback (.tell notice :: tasks)
        (.notified callback notice .proceed :: deeds) flow
  | toldLast {tasks notice} :
      CarriedOut callback (.tell notice :: tasks) [.notified callback notice .stop] .stop

namespace CarriedOut

variable {callback : Callback ω} {tasks more : List Task} {deeds others : List (Deed ω)}
  {flow : Flow}

theorem append (first : CarriedOut callback tasks deeds .proceed)
    (rest : CarriedOut callback more others flow) :
    CarriedOut callback (tasks ++ more) (deeds ++ others) flow := by
  generalize goesOn : Flow.proceed = between at first
  induction first with
  | done => exact rest
  | settled _ inductionHypothesis => exact .settled (inductionHypothesis goesOn)
  | reported _ inductionHypothesis => exact .reported (inductionHypothesis goesOn)
  | reportedLast => cases goesOn
  | told _ inductionHypothesis => exact .told (inductionHypothesis goesOn)
  | toldLast => cases goesOn

theorem cut (first : CarriedOut callback tasks deeds .stop) (more : List Task) :
    CarriedOut callback (tasks ++ more) deeds .stop := by
  generalize ends : Flow.stop = last at first
  induction first with
  | done => cases ends
  | settled _ inductionHypothesis => exact .settled (inductionHypothesis ends)
  | reported _ inductionHypothesis => exact .reported (inductionHypothesis ends)
  | reportedLast => exact .reportedLast
  | told _ inductionHypothesis => exact .told (inductionHypothesis ends)
  | toldLast => exact .toldLast

end CarriedOut

/-- A world in which everything that a dispatcher does is written down. -/
structure Watched (ω : Type) where
  world : ω
  deeds : List (Deed ω) := []

instance [Transport ω] : Transport (Watched ω) where
  send request := fun watched =>
    let (result, world) := Transport.send request watched.world
    (result, { world, deeds := watched.deeds ++ [.answered request result] })
  close := fun watched =>
    let (result, world) := (Transport.close : Attempt SystemError ω Unit) watched.world
    (result, { watched with world })

/-- What the callback itself does to the world is none of the dispatcher's deeds. -/
def Callback.watched (callback : Callback ω) : Callback (Watched ω) := fun notice watched =>
  let (flow, world) := callback notice watched.world
  (flow, { world, deeds := watched.deeds ++ [.notified callback notice flow] })

namespace Dispatcher

def watched (dispatcher : Dispatcher ω) : Dispatcher (Watched ω) where
  session := dispatcher.session
  localTraffic := dispatcher.localTraffic
  shutdown := dispatcher.shutdown
  callback := Callback.watched dispatcher.callback

end Dispatcher

/-- Watching a part of a dispatcher's work changes nothing of it, and shows deeds that carry out
what there was to do. -/
def Shows (callback : Callback ω) (tasks : List Task) (watched : Watched ω → Flow × Watched ω)
    (plain : ω → Flow × ω) : Prop :=
  ∀ world before, ∃ deeds,
    watched ⟨world, before⟩ = ((plain world).1, ⟨(plain world).2, before ++ deeds⟩) ∧
      CarriedOut callback tasks deeds (plain world).1

theorem reportTask?_eq (localTraffic : Bool) (session : Nat) (report : PacketReport) :
    reportTask? localTraffic session report =
      match Disposition.of localTraffic report with
      | .unanswerable => none
      | .settled id verdict => some (.settle ⟨id, verdict, .none⟩)
      | .eligible id payload conntrack =>
        some (.tell (.packet ⟨id, streamOf conntrack, payload, session⟩)) := by
  obtain ⟨id, payload, conntrack⟩ := report
  cases id with
  | none => rfl
  | some id =>
    cases payload with
    | none => rfl
    | some payload =>
      by_cases short : payload.length < 20
      · have cut : (some payload).filter (20 ≤ ·.length) = none := by
          simp [Option.filter, Nat.not_le_of_lt short]
        simp [reportTask?, Disposition.of, minPacketLength, cut, short]
      · have whole : (some payload).filter (20 ≤ ·.length) = some payload := by
          simp [Option.filter, Nat.le_of_not_lt short]
        cases conntrack with
        | none =>
          simp [reportTask?, Disposition.of, minPacketLength, whole, short, untrackedVerdict]
        | some conntrack =>
          simp [reportTask?, Disposition.of, minPacketLength, whole, short, streamOf]

namespace Dispatcher

theorem callback_shows (dispatcher : Dispatcher ω) (notice : Notice) :
    Shows dispatcher.callback [.tell notice] (dispatcher.watched.callback notice)
      (dispatcher.callback notice) := by
  intro world before
  refine ⟨[.notified dispatcher.callback notice (dispatcher.callback notice world).1], rfl, ?_⟩
  cases (dispatcher.callback notice world).1 with
  | proceed => exact .told .done
  | stop => exact .toldLast

variable [Transport ω] (dispatcher : Dispatcher ω)

theorem settle_shows (request : VerdictRequest) :
    Shows dispatcher.callback [.settle request] (dispatcher.watched.settle request)
      (dispatcher.settle request) := by
  intro world before
  rcases sent : (Transport.send request : Attempt SystemError ω Unit) world
    with ⟨cause | _, reached⟩
  · let notice := Notice.error (.transport cause)
    have plain : dispatcher.settle request world = dispatcher.callback notice reached := by
      simp only [settle, sent, notice]
    rw [plain]
    refine ⟨[.answered request (.error cause),
      .notified dispatcher.callback notice (dispatcher.callback notice reached).1], ?_, ?_⟩
    · simp [settle, Transport.send, sent, watched, Callback.watched, notice]
    · cases (dispatcher.callback notice reached).1 with
      | proceed => exact .reported .done
      | stop => exact .reportedLast
  · have plain : dispatcher.settle request world = (.proceed, reached) := by
      simp only [settle, sent]
    rw [plain]
    refine ⟨[.answered request (.ok ())], ?_, .settled .done⟩
    simp only [settle, Transport.send, sent]

theorem deliverOne_shows (report : PacketReport) :
    Shows dispatcher.callback
      (reportTask? dispatcher.localTraffic dispatcher.session report).toList
      (dispatcher.watched.deliverOne report) (dispatcher.deliverOne report) := by
  rw [reportTask?_eq]
  cases disposed : Disposition.of dispatcher.localTraffic report with
  | unanswerable =>
    intro world before
    refine ⟨[], ?_, ?_⟩
    · simp [deliverOne, watched, disposed]
    · simpa [deliverOne, disposed] using CarriedOut.done
  | settled id verdict =>
    intro world before
    simpa [deliverOne, watched, disposed] using
      dispatcher.settle_shows ⟨id, verdict, .none⟩ world before
  | eligible id payload conntrack =>
    intro world before
    simpa [deliverOne, watched, disposed] using dispatcher.callback_shows
      (.packet ⟨id, streamOf conntrack, payload, dispatcher.session⟩) world before

theorem deliver_shows (reports : List PacketReport) :
    Shows dispatcher.callback
      (reports.filterMap (reportTask? dispatcher.localTraffic dispatcher.session))
      (dispatcher.watched.deliver reports) (dispatcher.deliver reports) := by
  induction reports with
  | nil => exact fun world before => ⟨[], by simp [deliver], .done⟩
  | cons report reports inductionHypothesis =>
    intro world before
    have tasks : (report :: reports).filterMap
        (reportTask? dispatcher.localTraffic dispatcher.session) =
        (reportTask? dispatcher.localTraffic dispatcher.session report).toList ++
          reports.filterMap (reportTask? dispatcher.localTraffic dispatcher.session) := by
      cases found : reportTask? dispatcher.localTraffic dispatcher.session report <;> simp [found]
    rw [tasks]
    obtain ⟨deeds, seen, carried⟩ := dispatcher.deliverOne_shows report world before
    rcases delivered : dispatcher.deliverOne report world with ⟨_ | _, reached⟩
    · rw [delivered] at seen carried
      obtain ⟨more, seenThen, carriedThen⟩ := inductionHypothesis reached (before ++ deeds)
      refine ⟨deeds ++ more, ?_, ?_⟩
      · simp only [deliver, seen, delivered, seenThen, List.append_assoc]
      · simp only [deliver, delivered]
        exact carried.append carriedThen
    · rw [delivered] at seen carried
      refine ⟨deeds, ?_, ?_⟩
      · simp only [deliver, seen, delivered]
      · simp only [deliver, delivered]
        exact carried.cut _

theorem accept_shows (arrival : Arrival) :
    Shows dispatcher.callback
      (arrivalTasks dispatcher.localTraffic dispatcher.session arrival)
      (dispatcher.watched.accept arrival) (dispatcher.accept arrival) := by
  cases arrival with
  | ok reports => exact dispatcher.deliver_shows reports
  | error cause =>
    intro world before
    by_cases full : cause = .noBufferSpace
    · simp only [arrivalTasks, accept, full, ↓reduceIte]
      exact ⟨[], by simp, .done⟩
    · simp only [arrivalTasks, accept, full, ↓reduceIte]
      exact dispatcher.callback_shows _ world before

end Dispatcher

end PacketDivert
