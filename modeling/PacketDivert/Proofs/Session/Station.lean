import PacketDivert.Session.Lifecycle

namespace PacketDivert

/-- A session at work, with the world of its transport, the machine that its rules are on, and what
has arrived for it but was not taken yet. -/
structure Station (ω : Type) where
  session : Session ω
  world : ω
  machine : Machine
  arrivals : List Arrival := []

/-- What happens to a session. A dispatcher runs only when it is its turn, so that anything may
happen between an arrival and its delivery, or between a signal and the end it brings. -/
inductive Stimulus (ω : Type) where
  | register (shutdown : Shutdown) (callback : Callback ω)
  | signal (shutdown : Shutdown)
  | arrive (arrival : Arrival)
  | dispatch
  | limit (table : Nat) (limits : TableLimits)
  | outside (change : ω × Machine → ω × Machine)

def Stimulus.arrival? {ω : Type} : Stimulus ω → Option Arrival
  | .arrive arrival => some arrival
  | _ => none

namespace Occurrence

variable {ω : Type}

def isSpawn : Occurrence ω → Bool
  | .performed (.spawn _) _ => true
  | _ => false

def isEnd : Occurrence ω → Bool
  | .ended => true
  | _ => false

def isInstall : Occurrence ω → Bool
  | .performed .install _ => true
  | _ => false

def isInstalled : Occurrence ω → Bool
  | .performed .install (.ok ()) => true
  | _ => false

/-- The callback that a dispatcher is spawned for. -/
def callback? : Occurrence ω → Option (Callback ω)
  | .performed (.spawn dispatcher) _ => some dispatcher.callback
  | _ => none

end Occurrence

namespace Station

variable {ω : Type}

def openWith (id : Nat) (backend : RuleBackend) (policy : Policy) (world : ω) (machine : Machine) :
    Station ω where
  session := Session.openWith id backend policy
  world
  machine

variable [Transport ω]

def take : Stimulus ω → Attempt Error (Station ω) Unit
  | .register shutdown callback => fun station =>
    let (result, session, machine) :=
      Session.register shutdown callback (station.session, station.machine)
    (result, { station with session, machine })
  | .signal shutdown => fun station =>
    (.ok (), { station with session := (station.session.signal shutdown).2 })
  | .arrive arrival => fun station =>
    (.ok (), { station with arrivals := station.arrivals ++ [arrival] })
  | .dispatch => fun station =>
    let (session, arrivals, world) := station.session.resume station.arrivals station.world
    (.ok (), { station with session, arrivals, world })
  | .limit table limits => fun station =>
    (.ok (), { station with session := { station.session with
      backend := station.session.backend.limit table limits } })
  | .outside change => fun station =>
    let (world, machine) := change (station.world, station.machine)
    (.ok (), { station with world, machine })

def close : Attempt Error (Station ω) Unit := fun station =>
  let (result, session, world, machine) :=
    Session.close (station.session, station.world, station.machine)
  (result, { station with session, world, machine })

def run (stimuli : List (Stimulus ω)) (station : Station ω) : Station ω :=
  stimuli.foldl (fun station stimulus => (take stimulus station).2) station

@[simp] theorem run_nil (station : Station ω) : run [] station = station := rfl

@[simp] theorem run_cons (stimulus : Stimulus ω) (stimuli : List (Stimulus ω))
    (station : Station ω) :
    run (stimulus :: stimuli) station = run stimuli (take stimulus station).2 := rfl

/-- What holds at the start of a run and is kept by whatever happens holds at its end. -/
theorem run_invariant (Holds : Station ω → Prop)
    (kept : ∀ station stimulus, Holds station → Holds (take stimulus station).2)
    (stimuli : List (Stimulus ω)) {station : Station ω} (held : Holds station) :
    Holds (run stimuli station) := by
  induction stimuli generalizing station with
  | nil => exact held
  | cons stimulus stimuli inductionHypothesis =>
    exact inductionHypothesis (kept station stimulus held)

theorem register_of_some {station : Station ω} {dispatcher : Dispatcher ω}
    (busy : station.session.dispatcher = some dispatcher) (shutdown : Shutdown)
    (callback : Callback ω) :
    take (.register shutdown callback) station = (.error .alreadyRegistered, station) := by
  simp only [take, Session.register, busy]

end Station

end PacketDivert
