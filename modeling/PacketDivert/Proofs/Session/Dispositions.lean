import PacketDivert.Proofs.Session.Deeds
import PacketDivert.Proofs.Session.RuleLifecycle
import PacketDivert.Session.Bench

namespace PacketDivert

variable {ω : Type}

/-- The whole account of a session that dispatches: the callbacks that were registered, the
arrivals that were taken, what was done, and the callback that is in force. A callback is in force
from its registration until it says stop, and each arrival is taken for one callback. -/
inductive Account (localTraffic : Bool) (session : Nat) :
    List (Callback ω) → List Arrival → List (Deed ω) → Option (Callback ω) → Prop where
  | opened : Account localTraffic session [] [] [] none
  | registered {callbacks arrivals deeds}
      (before : Account localTraffic session callbacks arrivals deeds none)
      (callback : Callback ω) :
      Account localTraffic session (callbacks ++ [callback]) arrivals deeds (some callback)
  | taken {callbacks arrivals deeds callback arrival more}
      (before : Account localTraffic session callbacks arrivals deeds (some callback))
      (carried : CarriedOut callback (arrivalTasks localTraffic session arrival) more .proceed) :
      Account localTraffic session callbacks (arrivals ++ [arrival]) (deeds ++ more)
        (some callback)
  | stopped {callbacks arrivals deeds callback arrival more}
      (before : Account localTraffic session callbacks arrivals deeds (some callback))
      (carried : CarriedOut callback (arrivalTasks localTraffic session arrival) more .stop) :
      Account localTraffic session callbacks (arrivals ++ [arrival]) (deeds ++ more) none

/-- Arrivals that a dispatcher takes are added to the account. -/
theorem Dispatcher.drain_account [Transport ω] (dispatcher : Dispatcher ω)
    {callbacks : List (Callback ω)} (arrivals : List Arrival) (world : ω)
    {taken : List Arrival} {deeds : List (Deed ω)}
    (account : Account dispatcher.localTraffic dispatcher.session callbacks taken deeds
      (some dispatcher.callback)) :
    ∃ flow first rest more reached,
      dispatcher.drain arrivals world = (flow, rest, reached) ∧
      dispatcher.watched.drain arrivals ⟨world, deeds⟩ = (flow, rest, ⟨reached, deeds ++ more⟩) ∧
      arrivals = first ++ rest ∧ (flow = .proceed → rest = []) ∧
      Account dispatcher.localTraffic dispatcher.session callbacks (taken ++ first) (deeds ++ more)
        (if flow = .stop then none else some dispatcher.callback) := by
  induction arrivals generalizing world taken deeds with
  | nil => exact ⟨.proceed, [], [], [], world, rfl, by simp [drain], rfl, fun _ => rfl, by simpa⟩
  | cons arrival arrivals inductionHypothesis =>
    obtain ⟨more, seen, carried⟩ := dispatcher.accept_shows arrival world deeds
    rcases accepted : dispatcher.accept arrival world with ⟨_ | _, reached⟩
    · rw [accepted] at seen carried
      obtain ⟨flow, first, rest, others, last, drained, seenThen, split, complete, accountThen⟩ :=
        inductionHypothesis reached (account.taken carried)
      refine ⟨flow, arrival :: first, rest, more ++ others, last, ?_, ?_, ?_, complete, ?_⟩
      · simp only [drain, accepted, drained]
      · simp only [drain, seen, seenThen, List.append_assoc]
      · rw [split, List.cons_append]
      · simpa using accountThen
    · rw [accepted] at seen carried
      refine ⟨.stop, [arrival], arrivals, more, reached, ?_, ?_, rfl, nofun, ?_⟩
      · simp only [drain, accepted]
      · simp only [drain, seen]
      · exact account.stopped carried

/-- A stimulus that keeps the shutdown signal down and its holder alive. -/
def Stimulus.Live : Stimulus ω → Prop
  | .register shutdown _ | .signal shutdown => shutdown.ends = false
  | _ => True

def Stimulus.watched : Stimulus ω → Stimulus (Watched ω)
  | .register shutdown callback => .register shutdown (Callback.watched callback)
  | .signal shutdown => .signal shutdown
  | .arrive arrival => .arrive arrival
  | .dispatch => .dispatch
  | .limit table limits => .limit table limits
  | .outside change => .outside fun (watched, machine) =>
    let (world, machine) := change (watched.world, machine)
    ({ watched with world }, machine)

def Operation.watched : Operation ω → Operation (Watched ω)
  | .spawn dispatcher => .spawn dispatcher.watched
  | .install => .install
  | .abort => .abort
  | .remove => .remove
  | .unbind => .unbind

def Occurrence.watched : Occurrence ω → Occurrence (Watched ω)
  | .performed operation result => .performed operation.watched result
  | .ended => .ended

def Session.watched (session : Session ω) : Session (Watched ω) where
  handle := session.handle
  backend := session.backend
  policy := session.policy
  dispatcher := session.dispatcher.map Dispatcher.watched
  rules := session.rules
  log := session.log.map Occurrence.watched

theorem Session.ended_watched (session : Session ω) :
    session.watched.ended = session.ended.watched := by
  simp [ended, record, watched, Occurrence.watched]

theorem Session.abort_watched (session : Session ω) :
    session.watched.abort = session.abort.watched := by
  obtain ⟨handle, backend, policy, dispatcher, rules, log⟩ := session
  cases dispatcher <;> simp [abort, record, watched, Occurrence.watched, Operation.watched]

namespace Station

def watched (station : Station ω) (deeds : List (Deed ω)) : Station (Watched ω) where
  session := station.session.watched
  world := ⟨station.world, deeds⟩
  machine := station.machine
  arrivals := station.arrivals

/-- A session whose account is kept: what has arrived was taken or still waits, and a dispatcher
serves the session it belongs to. -/
structure Accounted (localTraffic : Bool) (session : Nat) (arrived taken : List Arrival)
    (deeds : List (Deed ω)) (station : Station ω) : Prop where
  handle : station.session.handle.session = session
  policy : station.session.policy.localTraffic = localTraffic
  dispatcher : ∀ dispatcher, station.session.dispatcher = some dispatcher →
    dispatcher.session = session ∧ dispatcher.localTraffic = localTraffic ∧
      dispatcher.shutdown.ends = false
  arrivals : arrived = taken ++ station.arrivals
  account : Account localTraffic session (station.session.log.filterMap Occurrence.callback?) taken
    deeds (station.session.dispatcher.map Dispatcher.callback)

variable [Transport ω]

theorem register_watched (station : Station ω) (deeds : List (Deed ω)) (shutdown : Shutdown)
    (callback : Callback ω) :
    take (Stimulus.register shutdown callback).watched (station.watched deeds) =
      ((take (.register shutdown callback) station).1,
        (take (.register shutdown callback) station).2.watched deeds) := by
  obtain ⟨⟨handle, backend, policy, dispatcher, rules, log⟩, world, machine, arrivals⟩ := station
  cases dispatcher with
  | some dispatcher => rfl
  | none =>
    cases rules <;>
      simp [take, Stimulus.watched, watched, Session.watched, Session.register,
        Session.dispatcherFor, Session.installRules, Session.install, Session.spawn, Session.record,
        Occurrence.watched, Operation.watched, Dispatcher.watched]

theorem signal_watched (station : Station ω) (deeds : List (Deed ω)) (shutdown : Shutdown) :
    take (Stimulus.signal shutdown).watched (station.watched deeds) =
      ((take (.signal shutdown) station).1,
        (take (.signal shutdown) station).2.watched deeds) := by
  obtain ⟨⟨handle, backend, policy, dispatcher, rules, log⟩, world, machine, arrivals⟩ := station
  cases dispatcher <;> rfl

theorem register_spawns {station : Station ω} (free : station.session.dispatcher = none)
    (shutdown : Shutdown) (callback : Callback ω) :
    let after := (take (.register shutdown callback) station).2
    after.session.handle = station.session.handle ∧
      after.session.policy = station.session.policy ∧
      after.session.dispatcher = some (station.session.dispatcherFor shutdown callback) ∧
      after.session.log.filterMap Occurrence.callback? =
        station.session.log.filterMap Occurrence.callback? ++ [callback] ∧
      after.arrivals = station.arrivals := by
  intro after
  by_cases installed : station.session.rules = .installed
  · have restarted : after = { station with
        session := station.session.spawn (station.session.dispatcherFor shutdown callback) } := by
      simp only [after, take, Session.register_restarts free installed]
    simp [restarted, Session.spawn, Session.record, Occurrence.callback?, Session.dispatcherFor]
  · simp [after, take, Session.register_installs free installed, Occurrence.callback?,
      Session.dispatcherFor]

variable {localTraffic : Bool} {session : Nat} {arrived taken : List Arrival}
  {deeds : List (Deed ω)} {station : Station ω}

namespace Accounted

theorem registered
    (accounted : Accounted localTraffic session arrived taken deeds station)
    {shutdown : Shutdown} (live : shutdown.ends = false) (callback : Callback ω) :
    Accounted localTraffic session arrived taken deeds
      (take (.register shutdown callback) station).2 := by
  cases busy : station.session.dispatcher with
  | some dispatcher =>
    rw [register_of_some busy]
    exact accounted
  | none =>
    obtain ⟨handle, policy, spawned, callbacks, waiting⟩ := register_spawns busy shutdown callback
    have account := accounted.account
    rw [busy] at account
    refine ⟨?_, ?_, ?_, ?_, ?_⟩
    · rw [handle, accounted.handle]
    · rw [policy, accounted.policy]
    · intro dispatcher same
      rw [spawned] at same
      cases same
      exact ⟨accounted.handle, accounted.policy, live⟩
    · rw [waiting, accounted.arrivals]
    · rw [callbacks, spawned]
      exact account.registered callback

theorem signalled
    (accounted : Accounted localTraffic session arrived taken deeds station)
    {shutdown : Shutdown} (live : shutdown.ends = false) :
    Accounted localTraffic session arrived taken deeds (take (.signal shutdown) station).2 := by
  cases running : station.session.dispatcher with
  | none =>
    have unheard : take (.signal shutdown) station = (.ok (), station) := by
      simp only [take, Session.signal, running]
    rw [unheard]
    exact accounted
  | some dispatcher =>
    obtain ⟨same, sameTraffic, _⟩ := accounted.dispatcher dispatcher running
    have heard : take (.signal shutdown) station = (.ok (), { station with
        session := { station.session with dispatcher := some { dispatcher with shutdown } } }) := by
      simp only [take, Session.signal, running]
    rw [heard]
    refine ⟨accounted.handle, accounted.policy, ?_, accounted.arrivals, ?_⟩
    · intro other found
      cases found
      exact ⟨same, sameTraffic, live⟩
    · simpa [running] using accounted.account

theorem dispatched
    (accounted : Accounted localTraffic session arrived taken deeds station) :
    ∃ first more,
      Accounted localTraffic session arrived (taken ++ first) (deeds ++ more)
        (take .dispatch station).2 ∧
      take .dispatch (station.watched deeds) =
        ((take .dispatch station).1, (take .dispatch station).2.watched (deeds ++ more)) ∧
      ((take .dispatch station).2.session.dispatcher.isSome →
        (take .dispatch station).2.arrivals = []) := by
  cases running : station.session.dispatcher with
  | none =>
    have still : take .dispatch station = (.ok (), station) := by
      simp only [take, Session.resume, running]
    refine ⟨[], [], ?_, ?_, ?_⟩
    · rw [still]
      simpa using accounted
    · rw [still]
      simp [take, Session.resume, watched, Session.watched, running]
    · simp [still, running]
  | some dispatcher =>
    obtain ⟨same, sameTraffic, live⟩ := accounted.dispatcher dispatcher running
    have account := accounted.account
    rw [running, ← same, ← sameTraffic] at account
    obtain ⟨flow, first, rest, more, reached, drained, drainedWatched, split, complete,
      accountThen⟩ := dispatcher.drain_account station.arrivals station.world account
    have arrivals : arrived = taken ++ first ++ rest := by
      rw [accounted.arrivals, split, List.append_assoc]
    rw [same, sameTraffic] at accountThen
    have liveWatched : dispatcher.watched.shutdown.ends = false := live
    cases flow with
    | proceed =>
      have resumed : take .dispatch station =
          (.ok (), { station with arrivals := rest, world := reached }) := by
        simp [take, Session.resume, running, Dispatcher.resume, live, drained]
      rw [resumed]
      refine ⟨first, more, ⟨accounted.handle, accounted.policy, accounted.dispatcher, arrivals, ?_⟩,
        ?_, fun _ => complete rfl⟩
      · simpa [running] using accountThen
      · simp [take, Session.resume, watched, Session.watched, running, Dispatcher.resume,
          liveWatched, drainedWatched]
    | stop =>
      have resumed : take .dispatch station =
          (.ok (), { station with
            session := station.session.ended
            arrivals := rest
            world := reached }) := by
        simp [take, Session.resume, running, Dispatcher.resume, live, drained]
      rw [resumed]
      refine ⟨first, more, ⟨accounted.handle, accounted.policy, ?_, arrivals, ?_⟩, ?_, ?_⟩
      · intro other found
        cases found
      · simpa [Session.ended, Session.record, List.filterMap_cons, Occurrence.callback?]
          using accountThen
      · have runningWatched : station.session.watched.dispatcher = some dispatcher.watched :=
          congrArg (Option.map Dispatcher.watched) running
        simp [take, Session.resume, watched, runningWatched, Dispatcher.resume, liveWatched,
          drainedWatched, Session.ended_watched]
      · intro waiting
        cases waiting

/-- The account goes on whatever happens, and watching changes nothing of it. -/
theorem goesOn (accounted : Accounted localTraffic session arrived taken deeds station)
    {stimulus : Stimulus ω} (live : stimulus.Live) :
    ∃ first more,
      Accounted localTraffic session (arrived ++ stimulus.arrival?.toList) (taken ++ first)
        (deeds ++ more) (take stimulus station).2 ∧
      take stimulus.watched (station.watched deeds) =
        ((take stimulus station).1, (take stimulus station).2.watched (deeds ++ more)) := by
  cases stimulus with
  | register shutdown callback =>
    refine ⟨[], [], ?_, ?_⟩
    · simpa [Stimulus.arrival?] using accounted.registered live callback
    · simpa using register_watched station deeds shutdown callback
  | dispatch =>
    obtain ⟨first, more, accountedThen, watched, _⟩ := accounted.dispatched
    exact ⟨first, more, by simpa [Stimulus.arrival?] using accountedThen, watched⟩
  | signal shutdown =>
    refine ⟨[], [], ?_, ?_⟩
    · simpa [Stimulus.arrival?] using accounted.signalled live
    · simpa using signal_watched station deeds shutdown
  | arrive arrival =>
    refine ⟨[], [], ?_, by simp [take, Stimulus.watched, watched]⟩
    simpa [Stimulus.arrival?, take] using { accounted with
      arrivals := by simp [accounted.arrivals] }
  | limit table limits =>
    refine ⟨[], [], ?_, by simp [take, Stimulus.watched, watched, Session.watched]⟩
    simpa [Stimulus.arrival?, take] using { accounted with }
  | outside change =>
    refine ⟨[], [], ?_, by simp [take, Stimulus.watched, watched]⟩
    simpa [Stimulus.arrival?, take] using { accounted with }

theorem run (accounted : Accounted localTraffic session arrived taken deeds station)
    {stimuli : List (Stimulus ω)} (live : ∀ stimulus ∈ stimuli, stimulus.Live) :
    ∃ first more,
      Accounted localTraffic session (arrived ++ stimuli.filterMap Stimulus.arrival?)
        (taken ++ first) (deeds ++ more) (Station.run stimuli station) ∧
      Station.run (stimuli.map Stimulus.watched) (station.watched deeds) =
        (Station.run stimuli station).watched (deeds ++ more) := by
  induction stimuli generalizing arrived taken deeds station with
  | nil => exact ⟨[], [], by simpa using accounted, by simp⟩
  | cons stimulus stimuli inductionHypothesis =>
    obtain ⟨liveFirst, liveRest⟩ := List.forall_mem_cons.mp live
    obtain ⟨first, more, accountedThen, watched⟩ := accounted.goesOn liveFirst
    obtain ⟨others, deedsThen, accountedLast, watchedLast⟩ :=
      inductionHypothesis accountedThen liveRest
    refine ⟨first ++ others, more ++ deedsThen, ?_, ?_⟩
    · have arrivals : (stimulus :: stimuli).filterMap Stimulus.arrival? =
          stimulus.arrival?.toList ++ stimuli.filterMap Stimulus.arrival? := by
        cases found : stimulus.arrival? <;> simp [found]
      rw [arrivals]
      simpa using accountedLast
    · rw [List.map_cons, run_cons, watched, watchedLast, List.append_assoc]
      rfl

end Accounted

end Station

/-- What a session's dispatchers do in a run without shutdown is what the arrivals call for. The
account names every arrival that was taken, in order, with what was done about it and for which
of the registered callbacks; the other arrivals still wait, and none waits once a dispatcher has
run. -/
theorem deeds_follow_arrivals [Transport ω] (id : Nat) (backend : RuleBackend) (policy : Policy)
    (world : ω) (machine : Machine) {stimuli : List (Stimulus ω)}
    (live : ∀ stimulus ∈ stimuli, stimulus.Live) :
    let start := Station.openWith id backend policy world machine
    let station := Station.run stimuli start
    ∃ taken deeds,
      Station.run (stimuli.map Stimulus.watched) (start.watched []) = station.watched deeds ∧
      Account policy.localTraffic id (station.session.log.filterMap Occurrence.callback?)
        taken deeds (station.session.dispatcher.map Dispatcher.callback) ∧
      stimuli.filterMap Stimulus.arrival? = taken ++ station.arrivals ∧
      ((Station.take .dispatch station).2.session.dispatcher.isSome →
        (Station.take .dispatch station).2.arrivals = []) := by
  intro start station
  have opened : start.Accounted policy.localTraffic id [] [] [] :=
    ⟨rfl, rfl, nofun, rfl, .opened⟩
  obtain ⟨taken, deeds, accounted, watched⟩ := opened.run live
  obtain ⟨_, _, _, _, complete⟩ := accounted.dispatched
  exact ⟨taken, deeds, watched, accounted.account, accounted.arrivals, complete⟩

/-- A truncated packet whose verdict is refused, and a callback that stops when it hears of it. -/
def refusedSettlement : List (Stimulus DetachedTransport) :=
  [.arrive (.ok [{ id := some 7, payload := some [0x45] }, { id := some 8 }]),
    .register ⟨false, true⟩ fun _ world => (.stop, world), .dispatch]

theorem deeds_follow_arrivals_refused :
    let start := Station.openWith 1 (.legacy { tables := [], params := .usual }) ⟨false, false⟩
      { sendFailure := some .wouldBlock } { tools := .scripted (fun _ => .ok ()) [] }
    let station := Station.run refusedSettlement start
    (∀ stimulus ∈ refusedSettlement, stimulus.Live) ∧ ∃ taken deeds,
      Station.run (refusedSettlement.map Stimulus.watched) (start.watched []) =
        station.watched deeds ∧
      Account false 1 (station.session.log.filterMap Occurrence.callback?) taken deeds
        (station.session.dispatcher.map Dispatcher.callback) := by
  intro start station
  have live : ∀ stimulus ∈ refusedSettlement, stimulus.Live := by
    simp [refusedSettlement, Stimulus.Live, Shutdown.ends]
  obtain ⟨taken, deeds, watched, account, _⟩ := deeds_follow_arrivals 1
    (.legacy { tables := [], params := .usual }) ⟨false, false⟩
    { sendFailure := some .wouldBlock } { tools := .scripted (fun _ => .ok ()) [] } live
  exact ⟨live, taken, deeds, watched, account⟩

end PacketDivert
