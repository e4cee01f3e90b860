import PacketDivert.Proofs.Session.Dispositions

namespace PacketDivert

open Netlink (VerdictRequest)

variable {ω : Type}

/-- The packet that a callback was given. -/
def Deed.packet? : Deed ω → Option Packet
  | .notified _ (.packet packet) _ => some packet
  | _ => none

def handedOut (deeds : List (Deed ω)) : List Packet := deeds.filterMap Deed.packet?

@[simp] theorem handedOut_nil : handedOut ([] : List (Deed ω)) = [] := rfl

@[simp] theorem handedOut_answered (request : VerdictRequest) (result : Except SystemError Unit)
    (deeds : List (Deed ω)) : handedOut (.answered request result :: deeds) = handedOut deeds := rfl

@[simp] theorem handedOut_packet (callback : Callback ω) (packet : Packet) (flow : Flow)
    (deeds : List (Deed ω)) :
    handedOut (.notified callback (.packet packet) flow :: deeds) = packet :: handedOut deeds := rfl

@[simp] theorem handedOut_error (callback : Callback ω) (error : Error) (flow : Flow)
    (deeds : List (Deed ω)) :
    handedOut (.notified callback (.error error) flow :: deeds) = handedOut deeds := rfl

@[simp] theorem handedOut_append (deeds more : List (Deed ω)) :
    handedOut (deeds ++ more) = handedOut deeds ++ handedOut more :=
  List.filterMap_append

theorem CarriedOut.asked_for {callback : Callback ω} {tasks : List Task} {deeds : List (Deed ω)}
    {flow : Flow} (carried : CarriedOut callback tasks deeds flow) {packet : Packet}
    (handed : packet ∈ handedOut deeds) : .tell (.packet packet) ∈ tasks := by
  induction carried with
  | done => cases handed
  | settled _ inductionHypothesis | reported _ inductionHypothesis =>
    exact .tail _ (inductionHypothesis (by simpa using handed))
  | reportedLast => simp at handed
  | @told _ _ _ notice _ inductionHypothesis =>
    cases notice with
    | error error => exact .tail _ (inductionHypothesis handed)
    | packet other =>
      rcases List.mem_cons.mp handed with same | handed
      · exact same ▸ .head _
      · exact .tail _ (inductionHypothesis handed)
  | @toldLast _ notice =>
    cases notice with
    | error error => simp at handed
    | packet other =>
      have same : packet = other := by simpa using handed
      exact same ▸ .head _

/-- What is told of a session's arrivals bears the number of the session. -/
theorem session_of_told {localTraffic : Bool} {session : Nat} {arrival : Arrival} {packet : Packet}
    (told : .tell (.packet packet) ∈ arrivalTasks localTraffic session arrival) :
    packet.session = session := by
  cases arrival with
  | error cause =>
    by_cases full : cause = .noBufferSpace <;> simp [arrivalTasks, full] at told
  | ok reports =>
    obtain ⟨report, _, asked⟩ := List.mem_filterMap.mp told
    rw [reportTask?_eq] at asked
    cases disposed : Disposition.of localTraffic report with
    | unanswerable => simp [disposed] at asked
    | settled id verdict => simp [disposed] at asked
    | eligible id payload conntrack =>
      simp only [disposed, Option.some.injEq, Task.tell.injEq, Notice.packet.injEq] at asked
      rw [← asked]

/-- Watching a dispatcher changes nothing of what it does, and what it hands out bears its
number. -/
theorem Dispatcher.drain_watched [Transport ω] (dispatcher : Dispatcher ω)
    (arrivals : List Arrival) (world : ω) (deeds : List (Deed ω)) :
    ∃ more, (∀ packet ∈ handedOut more, packet.session = dispatcher.session) ∧
      dispatcher.watched.drain arrivals ⟨world, deeds⟩ =
        ((dispatcher.drain arrivals world).1, (dispatcher.drain arrivals world).2.1,
          ⟨(dispatcher.drain arrivals world).2.2, deeds ++ more⟩) := by
  -- No account is kept here as for a single session: its signal may end this dispatcher.
  induction arrivals generalizing world deeds with
  | nil => exact ⟨[], by simp, by simp [drain]⟩
  | cons arrival arrivals inductionHypothesis =>
    obtain ⟨more, seen, carried⟩ := dispatcher.accept_shows arrival world deeds
    have own : ∀ packet ∈ handedOut more, packet.session = dispatcher.session :=
      fun packet handed => session_of_told (carried.asked_for handed)
    rcases accepted : dispatcher.accept arrival world with ⟨_ | _, reached⟩
    · obtain ⟨others, ownThen, seenThen⟩ := inductionHypothesis reached (deeds ++ more)
      refine ⟨more ++ others, ?_, ?_⟩
      · simpa [or_imp, forall_and] using ⟨own, ownThen⟩
      · simp [drain, seen, accepted, seenThen]
    · exact ⟨more, own, by simp [drain, seen, accepted]⟩

theorem Dispatcher.resume_watched [Transport ω] (dispatcher : Dispatcher ω)
    (arrivals : List Arrival) (world : ω) (deeds : List (Deed ω)) :
    ∃ more, (∀ packet ∈ handedOut more, packet.session = dispatcher.session) ∧
      dispatcher.watched.resume arrivals ⟨world, deeds⟩ =
        ((dispatcher.resume arrivals world).1, (dispatcher.resume arrivals world).2.1,
          ⟨(dispatcher.resume arrivals world).2.2, deeds ++ more⟩) := by
  have same : dispatcher.watched.shutdown = dispatcher.shutdown := rfl
  by_cases ends : dispatcher.shutdown.ends = true
  · exact ⟨[], by simp, by simp [resume, same, ends]⟩
  · simpa [resume, same, ends] using dispatcher.drain_watched arrivals world deeds

/-- What happens to one of many sessions. A verdict may be given on a packet of any of them, before
or after the session is gone. -/
inductive Turn (ω : Type) where
  | happen (stimulus : Stimulus ω)
  | answer (packet : Packet) (verdict : Verdict) (replacement : Option Bytes)
  | close
  | drop

def Turn.watched : Turn ω → Turn (Watched ω)
  | .happen stimulus => .happen stimulus.watched
  | .answer packet verdict replacement => .answer packet verdict replacement
  | .close => .close
  | .drop => .drop

namespace Station

/-- A session that is dropped stops dispatching and leaves everything else as it is. -/
def drop (station : Station ω) : Station ω :=
  { station with session := station.session.abort }

/-- A session under a number: its handle has it, and so has its dispatcher. -/
structure Serves (number : Nat) (station : Station ω) : Prop where
  handle : station.session.handle.session = number
  dispatcher : ∀ dispatcher, station.session.dispatcher = some dispatcher →
    dispatcher.session = number

variable [Transport ω]

/-- Gives a verdict on a handle, which sends through the transport of its session. -/
def setVerdict (handle : VerdictHandle) (packet : Packet) (verdict : Verdict)
    (replacement : Option Bytes) : Attempt Error (Station ω) Unit := fun station =>
  let (result, world) := handle.setVerdict packet verdict replacement station.world
  (result, { station with world })

def turn : Turn ω → Attempt Error (Station ω) Unit
  | .happen stimulus => take stimulus
  | .answer packet verdict replacement => fun station =>
    setVerdict station.session.handle packet verdict replacement station
  | .close => close
  | .drop => fun station => (.ok (), station.drop)

theorem close_watched (station : Station ω) (deeds : List (Deed ω)) :
    close (station.watched deeds) = ((close station).1, (close station).2.watched deeds) := by
  obtain ⟨⟨handle, backend, policy, dispatcher, rules, log⟩, world, machine, arrivals⟩ := station
  rcases closed : (Transport.close : Attempt SystemError ω Unit) world with ⟨_ | _, reached⟩ <;>
    cases rules <;> cases dispatcher <;>
    simp [close, Session.close, Session.abort, Session.removeRules, Session.remove, Session.unbind,
      Session.record, watched, Session.watched, Attempt.mapError, Transport.close, closed,
      Occurrence.watched, Operation.watched]

/-- A verdict on a packet of the handle's session is sent once, to the transport of the handle. -/
theorem setVerdict_own {handle : VerdictHandle} {packet : Packet}
    (own : packet.session = handle.session) (verdict : Verdict) (replacement : Option Bytes)
    (station : Station ω) :
    setVerdict handle packet verdict replacement station =
      let (result, world) :=
        Transport.send (handle.request packet.id replacement verdict) station.world
      (result.mapError .transport, { station with world }) := by
  simp only [setVerdict, VerdictHandle.setVerdict, own, ↓reduceIte, Attempt.mapError_run]

theorem setVerdict_foreign {handle : VerdictHandle} {packet : Packet}
    (foreign : packet.session ≠ handle.session) (verdict : Verdict) (replacement : Option Bytes)
    (station : Station ω) :
    setVerdict handle packet verdict replacement station = (.error .invalidPacket, station) := by
  simp only [setVerdict, VerdictHandle.setVerdict, foreign, ↓reduceIte, Attempt.fail_run]

/-- Watching shows nothing of a verdict but that it was sent. -/
theorem setVerdict_watched (handle : VerdictHandle) (packet : Packet) (verdict : Verdict)
    (replacement : Option Bytes) (station : Station ω) (deeds : List (Deed ω)) :
    ∃ more, handedOut more = [] ∧
      setVerdict handle packet verdict replacement (station.watched deeds) =
        ((setVerdict handle packet verdict replacement station).1,
          (setVerdict handle packet verdict replacement station).2.watched (deeds ++ more)) := by
  by_cases own : packet.session = handle.session
  · let request := handle.request packet.id replacement verdict
    refine ⟨[.answered request (Transport.send request station.world).1], rfl, ?_⟩
    rw [setVerdict_own own, setVerdict_own own]
    rfl
  · refine ⟨[], rfl, ?_⟩
    rw [setVerdict_foreign own, setVerdict_foreign own, List.append_nil]

theorem dispatch_watched (station : Station ω) (deeds : List (Deed ω)) :
    ∃ more, (∀ packet ∈ handedOut more, ∃ dispatcher,
        station.session.dispatcher = some dispatcher ∧ packet.session = dispatcher.session) ∧
      take .dispatch (station.watched deeds) =
        ((take .dispatch station).1, (take .dispatch station).2.watched (deeds ++ more)) := by
  cases running : station.session.dispatcher with
  | none => exact ⟨[], by simp, by simp [take, Session.resume, watched, Session.watched, running]⟩
  | some dispatcher =>
    obtain ⟨more, own, seen⟩ := dispatcher.resume_watched station.arrivals station.world deeds
    refine ⟨more, fun packet handed => ⟨dispatcher, rfl, own packet handed⟩, ?_⟩
    have runningWatched : station.session.watched.dispatcher = some dispatcher.watched :=
      congrArg (Option.map Dispatcher.watched) running
    rcases resumed : dispatcher.resume station.arrivals station.world with ⟨_ | _, _, _⟩ <;>
      simp [take, Session.resume, watched, running, runningWatched, seen, resumed,
        Session.ended_watched]

namespace Serves

variable {number : Nat} {station : Station ω}

theorem after_close (serves : station.Serves number) : (Station.close station).2.Serves number := by
  have gone : (Station.close station).2.session.dispatcher = none ∧
      (Station.close station).2.session.handle = station.session.handle := by
    cases rules : station.session.rules <;>
      simp [Station.close, Session.close, Session.abort_eq, Session.removeRules, Session.remove,
        Session.unbind, Session.record, rules]
  exact ⟨gone.2 ▸ serves.handle, by simp [gone.1]⟩

/-- A dispatcher that is spawned gets the number of its session, and keeps it. -/
theorem after_take (serves : station.Serves number) (stimulus : Stimulus ω) :
    (take stimulus station).2.Serves number := by
  cases stimulus with
  | arrive arrival => exact ⟨serves.handle, serves.dispatcher⟩
  | limit table limits => exact ⟨serves.handle, serves.dispatcher⟩
  | outside change => exact ⟨serves.handle, serves.dispatcher⟩
  | register shutdown callback =>
    cases running : station.session.dispatcher with
    | some dispatcher => rwa [register_of_some running]
    | none =>
      obtain ⟨handle, _, spawned, _, _⟩ := register_spawns running shutdown callback
      refine ⟨handle ▸ serves.handle, fun dispatcher found => ?_⟩
      cases spawned.symm.trans found
      exact serves.handle
  | signal shutdown =>
    cases running : station.session.dispatcher with
    | none => simpa [take, Session.signal, running] using serves
    | some dispatcher =>
      have own := serves.dispatcher dispatcher running
      constructor <;> simp [take, Session.signal, running, serves.handle, own]
  | dispatch =>
    cases running : station.session.dispatcher with
    | none => simpa [take, Session.resume, running] using serves
    | some dispatcher =>
      have own := serves.dispatcher dispatcher running
      rcases resumed : dispatcher.resume station.arrivals station.world with ⟨_ | _, _, _⟩ <;>
        constructor <;>
        simp [take, Session.resume, running, resumed, serves.handle, own]

/-- A session keeps its number whatever happens to it. -/
theorem after_turn (serves : station.Serves number) (given : Turn ω) :
    (turn given station).2.Serves number := by
  cases given with
  | happen stimulus => exact serves.after_take stimulus
  | answer packet verdict replacement => exact ⟨serves.handle, serves.dispatcher⟩
  | close => exact serves.after_close
  | drop => exact ⟨by simp [turn, drop, serves.handle], by simp [turn, drop]⟩

theorem take_watched (serves : station.Serves number) (stimulus : Stimulus ω)
    (deeds : List (Deed ω)) :
    ∃ more, (∀ packet ∈ handedOut more, packet.session = number) ∧
      take stimulus.watched (station.watched deeds) =
        ((take stimulus station).1, (take stimulus station).2.watched (deeds ++ more)) := by
  cases stimulus with
  | register shutdown callback =>
    exact ⟨[], by simp, by simpa using register_watched station deeds shutdown callback⟩
  | signal shutdown =>
    exact ⟨[], by simp, by simpa using signal_watched station deeds shutdown⟩
  | dispatch =>
    obtain ⟨more, handed, seen⟩ := station.dispatch_watched deeds
    refine ⟨more, fun packet member => ?_, seen⟩
    obtain ⟨dispatcher, running, own⟩ := handed packet member
    exact own.trans (serves.dispatcher dispatcher running)
  | arrive arrival => exact ⟨[], by simp, by simp [take, Stimulus.watched, watched]⟩
  | limit table limits =>
    exact ⟨[], by simp, by simp [take, Stimulus.watched, watched, Session.watched]⟩
  | outside change => exact ⟨[], by simp, by simp [take, Stimulus.watched, watched]⟩

/-- Watching a session changes nothing of what happens to it, and all that is handed out meanwhile
bears its number. -/
theorem turn_watched (serves : station.Serves number) (given : Turn ω) (deeds : List (Deed ω)) :
    ∃ more, (∀ packet ∈ handedOut more, packet.session = number) ∧
      turn given.watched (station.watched deeds) =
        ((turn given station).1, (turn given station).2.watched (deeds ++ more)) := by
  cases given with
  | happen stimulus => exact serves.take_watched stimulus deeds
  | answer packet verdict replacement =>
    obtain ⟨more, nothing, seen⟩ := setVerdict_watched station.session.handle packet verdict
      replacement station deeds
    exact ⟨more, by simp [nothing], seen⟩
  | close => exact ⟨[], by simp, (List.append_nil deeds).symm ▸ close_watched station deeds⟩
  | drop =>
    refine ⟨[], by simp, ?_⟩
    simp [turn, Turn.watched, drop, watched, Session.abort_watched]

end Serves

end Station

end PacketDivert
