import PacketDivert.Firewall.Backend
import PacketDivert.Firewall.Lookup
import PacketDivert.Session.Dispatcher
import PacketDivert.Settings.Document

/-! A session owns a bound queue and the divert rules that feed it: registering a callback starts
dispatching and puts the rules in place, closing stops it and takes them out. -/

namespace PacketDivert

open Netlink (BoundQueue Kernel Queue QueueOptions)

/-- What the session has done to the firewall: nothing, an install that failed and may have left
some rules, or an install that succeeded. -/
inductive RuleState where
  | absent
  | attempted
  | installed
  deriving DecidableEq, Repr

/-- What is noted of an install. -/
def RuleState.noted : Except Error Unit → RuleState
  | .ok () => .installed
  | .error _ => .attempted

/-- What a session does to its dispatcher, its rules and its queue. -/
inductive Operation (ω : Type) where
  | spawn (dispatcher : Dispatcher ω)
  | install
  | abort
  | remove
  | unbind

/-- An operation that was performed and its result, or a dispatcher that came to its end. -/
inductive Occurrence (ω : Type) where
  | performed (operation : Operation ω) (result : Except Error Unit)
  | ended

/-- The log is kept oldest first. -/
structure Session (ω : Type) where
  handle : VerdictHandle
  backend : RuleBackend
  policy : Policy
  dispatcher : Option (Dispatcher ω) := none
  rules : RuleState := .absent
  log : List (Occurrence ω) := []

namespace Session

variable {ω : Type}

/-- A session around a bound queue. Its verdicts write the marks that its rules look for. -/
def openWith (id : Nat) (backend : RuleBackend) (policy : Policy) : Session ω where
  handle := {
    session := id
    acceptMark := backend.params.acceptMark
    dropMark := backend.params.dropMark }
  backend
  policy

/-- The number of the first session of a process. -/
def firstNumber : UInt64 := 1

/-- A session under the next number, and the number after it. Numbers come back when all are used
up. -/
def openNext (backend : RuleBackend) (policy : Policy) (next : UInt64) : Session ω × UInt64 :=
  (openWith next.toNat backend policy, next + 1)

/-- The dispatcher that a registration brings. -/
def dispatcherFor (session : Session ω) (shutdown : Shutdown) (callback : Callback ω) :
    Dispatcher ω where
  session := session.handle.session
  localTraffic := session.policy.localTraffic
  shutdown
  callback

def record (session : Session ω) (occurrence : Occurrence ω) : Session ω :=
  { session with log := session.log ++ [occurrence] }

def spawn (dispatcher : Dispatcher ω) (session : Session ω) : Session ω :=
  { session with dispatcher := some dispatcher }.record (.performed (.spawn dispatcher) (.ok ()))

/-- Stops the dispatcher, if there is one. -/
def abort (session : Session ω) : Session ω :=
  match session.dispatcher with
  | none => session
  | some _ => { session with dispatcher := none }.record (.performed .abort (.ok ()))

/-- The dispatcher comes to its end by itself. -/
def ended (session : Session ω) : Session ω :=
  { session with dispatcher := none }.record .ended

@[simp] theorem ended_handle (session : Session ω) : session.ended.handle = session.handle := rfl

@[simp] theorem ended_dispatcher (session : Session ω) : session.ended.dispatcher = none := rfl

@[simp] theorem abort_handle (session : Session ω) : session.abort.handle = session.handle := by
  unfold abort
  split <;> rfl

@[simp] theorem abort_dispatcher (session : Session ω) : session.abort.dispatcher = none := by
  unfold abort
  split
  · assumption
  · rfl

/-- Has the backend put the rules in place. What is noted of them stays as it is. -/
def install : Attempt Error (Session ω × Machine) Unit := fun (session, machine) =>
  let (result, backend, machine) :=
    RuleBackend.install session.policy (session.backend, machine)
  (result, { session with backend }.record (.performed .install result), machine)

/-- Has the backend take the rules out. What is noted of them stays as it is. -/
def remove : Attempt Error (Session ω × Machine) Unit := fun (session, machine) =>
  let (result, backend, machine) := RuleBackend.remove session.policy (session.backend, machine)
  (result, { session with backend }.record (.performed .remove result), machine)

def unbind [Transport ω] : Attempt Error (Session ω × ω) Unit := fun (session, world) =>
  let (result, world) := (Transport.close (ω := ω)).mapError Error.transport world
  (result, session.record (.performed .unbind result), world)

/-- Puts the rules in place unless an earlier install has. -/
def installRules : Attempt Error (Session ω × Machine) Unit := fun (session, machine) =>
  match session.rules with
  | .installed => (.ok (), session, machine)
  | _ =>
    let (result, session, machine) := install (session, machine)
    (result, { session with rules := .noted result }, machine)

/-- Starts dispatching, then puts the rules in place. If that fails dispatching goes on, since
rules applied before the failure may divert packets already. -/
def register (shutdown : Shutdown) (callback : Callback ω) :
    Attempt Error (Session ω × Machine) Unit := fun (session, machine) =>
  match session.dispatcher with
  | some _ => (.error .alreadyRegistered, session, machine)
  | none => installRules (session.spawn (session.dispatcherFor shutdown callback), machine)

/-- Takes the rules out if an install was ever attempted, whether that works or not. -/
def removeRules (session : Session ω) (machine : Machine) : Session ω × Machine :=
  match session.rules with
  | .absent => (session, machine)
  | _ =>
    let (_, session, machine) := remove (session, machine)
    ({ session with rules := .absent }, machine)

/-- Stops dispatching, takes the rules out and unbinds the queue. Only the last can fail. -/
def close [Transport ω] : Attempt Error (Session ω × ω × Machine) Unit :=
  fun (session, world, machine) =>
    let (session, machine) := session.abort.removeRules machine
    let (result, session, world) := unbind (session, world)
    (result, session, world, machine)

/-- Changes the shutdown signal; false if no dispatcher is there to see it. -/
def signal (shutdown : Shutdown) (session : Session ω) : Bool × Session ω :=
  match session.dispatcher with
  | none => (false, session)
  | some dispatcher => (true, { session with dispatcher := some { dispatcher with shutdown } })

/-- Lets the dispatcher, if there is one, run until it waits again. -/
def resume [Transport ω] (session : Session ω) (arrivals : List Arrival) (world : ω) :
    Session ω × List Arrival × ω :=
  match session.dispatcher with
  | none => (session, arrivals, world)
  | some dispatcher =>
    match dispatcher.resume arrivals world with
    | (.stop, arrivals, world) => (session.ended, arrivals, world)
    | (.proceed, arrivals, world) => (session, arrivals, world)

end Session

/-- What a session is made of once its queue is bound. -/
structure Opened where
  backend : RuleBackend
  policy : Policy
  queue : Queue

/-- Packets are copied whole. A queue size of 0 means the usual one. -/
def Settings.queueOptions (settings : Settings) (queue : UInt16) : QueueOptions where
  queue
  maxPacketLength := 0xFFFF
  maxQueueLength := if settings.queueSize = 0 then 128 else settings.queueSize
  readBuffer := settings.readBuffer
  writeBuffer := settings.writeBuffer

/-- Checks the settings, looks for a backend, and binds the queue, in this order. No rule is
touched. -/
def Settings.openSession (settings : Settings) (environment : Environment) :
    Attempt Error Kernel Opened := do
  let policy ← .ofExcept settings.policy
  let params ← .ofExcept (DivertParams.usual.withTable settings.tableName)
  let backend ← .ofExcept (environment.probe params)
  let queue ← BoundQueue.openQueue (settings.queueOptions params.queue)
  pure { backend, policy, queue }

/-- The queue as a transport, and what has arrived on it: the datagrams that were not read while
it was bound. -/
def Opened.transport (opened : Opened) (kernel : Kernel) : BoundQueue × List Arrival :=
  ({ queue := opened.queue, kernel := { kernel with datagrams := [] } },
    kernel.datagrams.map BoundQueue.receive)

end PacketDivert
