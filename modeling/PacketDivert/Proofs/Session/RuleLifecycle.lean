import PacketDivert.Proofs.Firewall.Faults
import PacketDivert.Proofs.Session.Station

namespace PacketDivert

variable {ω : Type}

/-- What a session notes of its rules after what has been logged of it. -/
def RuleState.of (log : List (Occurrence ω)) : RuleState :=
  if log.any Occurrence.isInstalled then .installed
  else if log.any Occurrence.isInstall then .attempted
  else .absent

theorem Occurrence.isInstall_of_isInstalled {occurrence : Occurrence ω}
    (installed : occurrence.isInstalled = true) : occurrence.isInstall = true := by
  cases occurrence with
  | ended => cases installed
  | performed operation result =>
    cases operation with
    | install => rfl
    | spawn | abort | remove | unbind => cases installed

namespace RuleState

variable {log : List (Occurrence ω)}

theorem of_eq_installed_iff : of log = .installed ↔ log.any Occurrence.isInstalled := by
  unfold of
  split
  · simp_all
  · split <;> simp_all

theorem of_eq_absent_iff : of log = .absent ↔ log.any Occurrence.isInstall = false := by
  unfold of
  split
  · rename_i installed
    obtain ⟨occurrence, member, isInstalled⟩ := List.any_eq_true.mp installed
    have tried : log.any Occurrence.isInstall = true :=
      List.any_eq_true.mpr ⟨occurrence, member, Occurrence.isInstall_of_isInstalled isInstalled⟩
    simp [tried]
  · split <;> simp_all

/-- An install that follows none which succeeded decides what is noted. -/
theorem of_append_install (uninstalled : ¬log.any Occurrence.isInstalled)
    (dispatcher : Dispatcher ω) (result : Except Error Unit) :
    of (log ++ [.performed (.spawn dispatcher) (.ok ()), .performed .install result]) =
      noted result := by
  cases result <;> simp [of, noted, uninstalled, Occurrence.isInstalled, Occurrence.isInstall]

end RuleState

/-- The log of a session that is still open, whether a dispatcher runs, and what is noted of the
rules. A registration first spawns its dispatcher and then has the rules put in place, unless an
earlier one has; what comes of that does not stop the dispatcher. -/
inductive Chronicle : List (Occurrence ω) → (running : Bool) → RuleState → Prop where
  | opened : Chronicle [] false .absent
  | registered {log rules} (before : Chronicle log false rules) (missing : rules ≠ .installed)
      (dispatcher : Dispatcher ω) (result : Except Error Unit) :
      Chronicle (log ++ [.performed (.spawn dispatcher) (.ok ()), .performed .install result])
        true (.noted result)
  | restarted {log} (before : Chronicle log false .installed) (dispatcher : Dispatcher ω) :
      Chronicle (log ++ [.performed (.spawn dispatcher) (.ok ())]) true .installed
  | ended {log rules} (before : Chronicle log true rules) : Chronicle (log ++ [.ended]) false rules

namespace Chronicle

variable {log : List (Occurrence ω)} {running : Bool} {rules : RuleState}

theorem dispatchers (chronicle : Chronicle log running rules) :
    log.countP Occurrence.isSpawn = log.countP Occurrence.isEnd + running.toNat := by
  induction chronicle with
  | opened => rfl
  | registered _ _ _ _ counted =>
    simp [List.countP_cons, counted, Occurrence.isSpawn, Occurrence.isEnd]
  | restarted _ _ counted => simp [counted, Occurrence.isSpawn, Occurrence.isEnd]
  | ended _ counted => simp [counted, Occurrence.isSpawn, Occurrence.isEnd]

theorem rules_eq (chronicle : Chronicle log running rules) : rules = RuleState.of log := by
  induction chronicle with
  | opened => rfl
  | registered _ missing dispatcher result noted =>
    rw [noted, Ne, RuleState.of_eq_installed_iff] at missing
    exact (RuleState.of_append_install missing dispatcher result).symm
  | restarted _ _ noted =>
    have installed := RuleState.of_eq_installed_iff.mp noted.symm
    exact (RuleState.of_eq_installed_iff.mpr (by rw [List.any_append, installed]; rfl)).symm
  | ended _ noted => simp [noted, RuleState.of, Occurrence.isInstalled, Occurrence.isInstall]

/-- Once an install has succeeded there is no other. -/
theorem installedOnce (chronicle : Chronicle log running rules) :
    log.Pairwise fun earlier later => earlier.isInstalled = true → later.isInstall = false := by
  induction chronicle with
  | opened => exact .nil
  | registered before missing dispatcher result once =>
    rw [before.rules_eq, Ne, RuleState.of_eq_installed_iff, Bool.not_eq_true,
      List.any_eq_false] at missing
    refine List.pairwise_append.mpr ⟨once, by simp [Occurrence.isInstalled], ?_⟩
    intro earlier member later _ installed
    exact absurd installed (missing earlier member)
  | restarted _ dispatcher once =>
    refine List.pairwise_append.mpr ⟨once, List.pairwise_singleton _ _, ?_⟩
    simp [Occurrence.isInstall]
  | ended _ once =>
    refine List.pairwise_append.mpr ⟨once, List.pairwise_singleton _ _, ?_⟩
    simp [Occurrence.isInstall]

end Chronicle

/-- What is so at every moment of a session's life. -/
structure Lifecycle (session : Session ω) : Prop where
  chronicle : Chronicle session.log session.dispatcher.isSome session.rules
  dispatchers : session.log.countP Occurrence.isSpawn =
    session.log.countP Occurrence.isEnd + if session.dispatcher.isSome then 1 else 0
  rules : session.rules = RuleState.of session.log
  installedOnce : session.log.Pairwise fun earlier later =>
    earlier.isInstalled = true → later.isInstall = false

namespace Session

/-- A registration that finds neither a dispatcher nor rules that an install has put in place. -/
theorem register_installs {session : Session ω} (free : session.dispatcher = none)
    (missing : session.rules ≠ .installed) (machine : Machine) (shutdown : Shutdown)
    (callback : Callback ω) :
    let dispatcher := session.dispatcherFor shutdown callback
    Session.register shutdown callback (session, machine) =
      let (result, backend, machine) :=
        RuleBackend.install session.policy (session.backend, machine)
      (result, { session with
        backend
        dispatcher := some dispatcher
        rules := .noted result
        log := session.log ++
          [.performed (.spawn dispatcher) (.ok ()), .performed .install result] }, machine) := by
  obtain ⟨handle, backend, policy, dispatcher, rules, log⟩ := session
  cases free
  cases rules with
  | installed => exact absurd rfl missing
  | absent | attempted =>
    simp [register, installRules, install, spawn, record, dispatcherFor]

/-- A registration that finds no dispatcher, but rules that an install has put in place. -/
theorem register_restarts {session : Session ω} (free : session.dispatcher = none)
    (installed : session.rules = .installed) (machine : Machine) (shutdown : Shutdown)
    (callback : Callback ω) :
    Session.register shutdown callback (session, machine) =
      (.ok (), session.spawn (session.dispatcherFor shutdown callback), machine) := by
  simp [register, free, installRules, spawn, record, installed]

theorem removeRules_of_ne (session : Session ω) (present : session.rules ≠ .absent)
    (machine : Machine) :
    Session.removeRules session machine =
      let (result, backend, machine) := RuleBackend.remove session.policy (session.backend, machine)
      ({ session with
        backend
        rules := .absent
        log := session.log ++ [.performed .remove result] }, machine) := by
  obtain ⟨handle, backend, policy, dispatcher, rules, log⟩ := session
  cases rules with
  | absent => exact absurd rfl present
  | installed | attempted => simp [removeRules, remove, record]

/-- What is logged of a dispatcher that is stopped from outside. -/
def stopping (session : Session ω) : List (Occurrence ω) :=
  if session.dispatcher.isSome then [.performed .abort (.ok ())] else []

theorem abort_eq (session : Session ω) :
    session.abort =
      { session with dispatcher := none, log := session.log ++ session.stopping } := by
  obtain ⟨handle, backend, policy, dispatcher, rules, log⟩ := session
  cases dispatcher <;> simp [abort, stopping, record]

/-- A dispatcher that runs goes on waiting or comes to its end. -/
theorem resume_cases [Transport ω] (session : Session ω) (arrivals : List Arrival) (world : ω) :
    (session.resume arrivals world).1 = session ∨
      session.dispatcher.isSome = true ∧ (session.resume arrivals world).1 = session.ended := by
  unfold resume
  cases session.dispatcher with
  | none => exact .inl rfl
  | some dispatcher =>
    dsimp only
    rcases dispatcher.resume arrivals world with ⟨_ | _, _, _⟩
    · exact .inl rfl
    · exact .inr ⟨rfl, rfl⟩

end Session

namespace Lifecycle

theorem of_chronicle {session : Session ω}
    (chronicle : Chronicle session.log session.dispatcher.isSome session.rules) :
    Lifecycle session where
  chronicle
  dispatchers := by
    rw [chronicle.dispatchers]
    cases session.dispatcher <;> rfl
  rules := chronicle.rules_eq
  installedOnce := chronicle.installedOnce

theorem opened (id : Nat) (backend : RuleBackend) (policy : Policy) :
    Lifecycle (Session.openWith id backend policy : Session ω) :=
  of_chronicle .opened

variable [Transport ω] {station : Station ω}

theorem registered (lifecycle : Lifecycle station.session) (shutdown : Shutdown)
    (callback : Callback ω) :
    Lifecycle (Station.take (.register shutdown callback) station).2.session := by
  cases busy : station.session.dispatcher with
  | some dispatcher =>
    rw [Station.register_of_some busy]
    exact lifecycle
  | none =>
    have before := lifecycle.chronicle
    rw [busy] at before
    apply of_chronicle
    by_cases installed : station.session.rules = .installed
    · rw [installed] at before
      simpa [Station.take, Session.register_restarts busy installed, Session.spawn,
        Session.record, installed] using before.restarted _
    · simpa [Station.take, Session.register_installs busy installed] using
        before.registered installed _ _

theorem dispatched (lifecycle : Lifecycle station.session) :
    Lifecycle (Station.take .dispatch station).2.session := by
  rcases station.session.resume_cases station.arrivals station.world with same | ⟨running, gone⟩
  · have unchanged : (Station.take .dispatch station).2.session = station.session := same
    rwa [unchanged]
  · have stopped : (Station.take .dispatch station).2.session = station.session.ended := gone
    have before := lifecycle.chronicle
    rw [running] at before
    rw [stopped]
    exact of_chronicle before.ended

/-- Whatever happens to a session, its life goes on as before. -/
theorem taken (lifecycle : Lifecycle station.session) (stimulus : Stimulus ω) :
    Lifecycle (Station.take stimulus station).2.session := by
  cases stimulus with
  | register shutdown callback => exact lifecycle.registered shutdown callback
  | dispatch => exact lifecycle.dispatched
  | signal shutdown =>
    have before := lifecycle.chronicle
    apply of_chronicle
    cases busy : station.session.dispatcher <;>
      simpa [Station.take, Session.signal, busy] using before
  | arrive arrival => exact lifecycle
  | limit table limits => exact of_chronicle lifecycle.chronicle
  | outside change => exact lifecycle

end Lifecycle

/-- What comes of registering a callback at some moment of a session's life. It is refused, and
nothing is done or changed, while a dispatcher runs. Otherwise a dispatcher is spawned, and then the
rules are put in place unless that has worked before. What comes of that is the result, and the
dispatcher runs on. -/
structure Registers [Transport ω] (station : Station ω) (shutdown : Shutdown)
    (callback : Callback ω) : Prop where
  refused : station.session.dispatcher.isSome →
    Station.take (.register shutdown callback) station = (.error .alreadyRegistered, station)
  installs : station.session.dispatcher = none →
    ¬station.session.log.any Occurrence.isInstalled →
    let dispatcher := station.session.dispatcherFor shutdown callback
    let (result, backend, machine) :=
      RuleBackend.install station.session.policy (station.session.backend, station.machine)
    Station.take (.register shutdown callback) station = (result, { station with
      machine
      session := { station.session with
        backend
        dispatcher := some dispatcher
        rules := .noted result
        log := station.session.log ++
          [.performed (.spawn dispatcher) (.ok ()), .performed .install result] } })
  restarts : station.session.dispatcher = none →
    station.session.log.any Occurrence.isInstalled →
    let dispatcher := station.session.dispatcherFor shutdown callback
    Station.take (.register shutdown callback) station = (.ok (), { station with
      session := { station.session with
        dispatcher := some dispatcher
        log := station.session.log ++ [.performed (.spawn dispatcher) (.ok ())] } })
  answer : (Station.take (.register shutdown callback) station).1 = .error .alreadyRegistered ↔
    station.session.dispatcher.isSome

/-- What comes of closing a session. Its dispatcher is stopped if one runs, then its rules are taken
out if they were ever tried, and then its queue is unbound, which alone decides the result. -/
structure Closes [Transport ω] (station : Station ω) : Prop where
  removes : station.session.log.any Occurrence.isInstall →
    let (removed, backend, machine) :=
      RuleBackend.remove station.session.policy (station.session.backend, station.machine)
    let (result, world) := (Transport.close (ω := ω)).mapError Error.transport station.world
    Station.close station = (result, { station with
      world
      machine
      session := { station.session with
        backend
        dispatcher := none
        rules := .absent
        log := station.session.log ++ station.session.stopping ++
          [.performed .remove removed, .performed .unbind result] } })
  leaves : ¬station.session.log.any Occurrence.isInstall →
    let (result, world) := (Transport.close (ω := ω)).mapError Error.transport station.world
    Station.close station = (result, { station with
      world
      session := { station.session with
        dispatcher := none
        log := station.session.log ++ station.session.stopping ++
          [.performed .unbind result] } })
  result : (Station.close station).1 =
    ((Transport.close (ω := ω)).mapError Error.transport station.world).1

namespace Lifecycle

variable [Transport ω] {station : Station ω}

theorem registers (lifecycle : Lifecycle station.session) (shutdown : Shutdown)
    (callback : Callback ω) : Registers station shutdown callback := by
  constructor
  · intro busy
    obtain ⟨dispatcher, running⟩ := Option.isSome_iff_exists.mp busy
    exact Station.register_of_some running shutdown callback
  · intro free missing
    rw [← RuleState.of_eq_installed_iff, ← lifecycle.rules] at missing
    simp only [Station.take, Session.register_installs free missing]
  · intro free installed
    rw [← RuleState.of_eq_installed_iff, ← lifecycle.rules] at installed
    simp only [Station.take, Session.register_restarts free installed]
    rfl
  · cases busy : station.session.dispatcher with
    | some dispatcher => simp [Station.register_of_some busy]
    | none =>
      by_cases installed : station.session.rules = .installed
      · simp [Station.take, Session.register_restarts busy installed]
      · have answered : (RuleBackend.install station.session.policy
            (station.session.backend, station.machine)).1 ≠ .error .alreadyRegistered := by
          intro refused
          cases RuleBackend.install_failsOnly _ _ _ refused
        simp [Station.take, Session.register_installs busy installed, answered]

theorem closes (lifecycle : Lifecycle station.session) : Closes station := by
  constructor
  · intro tried
    have present : station.session.rules ≠ .absent := by
      rw [lifecycle.rules, Ne, RuleState.of_eq_absent_iff, tried]
      simp
    simp [Station.close, Session.close, Session.abort_eq, Session.removeRules_of_ne, present,
      Session.unbind, Session.record]
  · intro untried
    have absent : station.session.rules = .absent := by
      rw [lifecycle.rules, RuleState.of_eq_absent_iff]
      simpa using untried
    simp [Station.close, Session.close, Session.abort_eq, Session.removeRules, absent,
      Session.unbind, Session.record]
  · rfl

end Lifecycle

/-- The life of a session, from its opening and through whatever happens to it, up to its close. -/
theorem session_lifecycle [Transport ω] (id : Nat) (backend : RuleBackend) (policy : Policy)
    (world : ω) (machine : Machine) (stimuli : List (Stimulus ω)) :
    let station := Station.run stimuli (Station.openWith id backend policy world machine)
    Lifecycle station.session ∧
      (∀ shutdown callback, Registers station shutdown callback) ∧
      Closes station := by
  intro station
  have lifecycle : Lifecycle station.session :=
    Station.run_invariant (fun station => Lifecycle station.session)
      (fun _ stimulus held => held.taken stimulus) stimuli (.opened id backend policy)
  exact ⟨lifecycle, lifecycle.registers, lifecycle.closes⟩

end PacketDivert
