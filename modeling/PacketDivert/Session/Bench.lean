import PacketDivert.Session.Lifecycle

/-! A bench on which sessions are run step by step and watched. Nothing that a session does is
done by the bench: it brings packets, signals and verdicts, and writes down what it sees. -/

namespace PacketDivert

open Netlink (VerdictRequest PacketReport)

/-- What is seen of a session: what its callback is given, verdicts of the callback that failed,
and what is asked of its transport. -/
inductive Observation where
  | packet (packet : Packet)
  | error (error : Error)
  | verdictFailed (error : Error)
  | requested (request : VerdictRequest) (failure : Option SystemError)
  | closed (failure : Option SystemError)
  deriving DecidableEq, Repr

/-- A transport under observation, the packets that the callback kept, and how many notices it
has been given. -/
structure Observed (τ : Type) where
  transport : τ
  seen : List Observation := []
  kept : List Packet := []
  notices : Nat := 0

namespace Observed

variable {τ : Type}

def see (world : Observed τ) (observation : Observation) : Observed τ :=
  { world with seen := world.seen ++ [observation] }

def failure? : Except SystemError Unit → Option SystemError
  | .ok () => none
  | .error cause => some cause

instance [Transport τ] : Transport (Observed τ) where
  send request := fun world =>
    let (result, transport) := Transport.send request world.transport
    (result, { world with transport }.see (.requested request (failure? result)))
  close := fun world =>
    let (result, transport) := (Transport.close : Attempt SystemError τ Unit) world.transport
    (result, { world with transport }.see (.closed (failure? result)))

end Observed

/-- A transport that reaches no kernel: calls fail as they are told to. -/
structure DetachedTransport where
  sendFailure : Option SystemError := none
  closeFailure : Option SystemError := none
  deriving DecidableEq, Repr

def DetachedTransport.outcome : Option SystemError → Except SystemError Unit
  | none => .ok ()
  | some cause => .error cause

instance : Transport DetachedTransport where
  send _ := fun transport => (DetachedTransport.outcome transport.sendFailure, transport)
  close := fun transport => (DetachedTransport.outcome transport.closeFailure, transport)

/-- A callback that keeps each packet or answers it at once, and stops after some notices, unless
that number is 0. -/
structure Handler where
  answer : Option (Verdict × Option Bytes) := none
  stopAfter : Nat := 0
  deriving DecidableEq, Repr

variable {τ : Type} [Transport τ]

def Handler.take (handler : Handler) (handle : VerdictHandle) (packet : Packet)
    (world : Observed τ) : Observed τ :=
  let world := world.see (.packet packet)
  match handler.answer with
  | none => { world with kept := world.kept ++ [packet] }
  | some (verdict, replacement) =>
    match handle.setVerdict packet verdict replacement world with
    | (.ok (), world) => world
    | (.error error, world) => world.see (.verdictFailed error)

/-- The callback of a handler; `before` counts the notices of earlier callbacks. -/
def Handler.callback (handler : Handler) (handle : VerdictHandle) (before : Nat) :
    Callback (Observed τ) := fun notice world =>
  let world := { world with notices := world.notices + 1 }
  let world := match notice with
    | .packet packet => handler.take handle packet world
    | .error error => world.see (.error error)
  let stops := handler.stopAfter ≠ 0 ∧ world.notices = before + handler.stopAfter
  (if stops then .stop else .proceed, world)

/-- One session with all that belongs to it. A session that was closed or dropped is gone, but its
verdict handle works on. -/
structure Seat (τ : Type) where
  session : Session (Observed τ)
  present : Bool := true
  world : Observed τ
  arrivals : List Arrival := []
  signalHeld : Bool := false

/-- Sessions side by side on one machine, and the packets that their callbacks have kept. -/
structure Bench (τ : Type) where
  seats : List (Seat τ)
  machine : Machine
  kept : List (Option Packet) := []

inductive Step (τ : Type) where
  | register (shutdown : Shutdown) (handler : Handler)
  | arrive (arrival : Arrival)
  | verdict (packet : Nat) (verdict : Verdict) (replacement : Option Bytes)
  | signal (raised : Bool)
  | releaseSignal
  | adjust (change : τ → τ)
  | limit (table : Nat) (limits : TableLimits)
  | inform
  | close
  | drop

inductive Reply where
  | done
  | failed (error : Error)
  | info (kind : BackendKind) (policy : Policy)
  | noSession
  | noPacket
  | noReceiver
  | noSender
  deriving DecidableEq, Repr

def Reply.ofResult : Except Error Unit → Reply
  | .ok () => .done
  | .error error => .failed error

namespace Seat

def openWith (id : Nat) (backend : RuleBackend) (policy : Policy) (transport : τ) : Seat τ where
  session := Session.openWith id backend policy
  world := { transport }

def openNext (backend : RuleBackend) (policy : Policy) (transport : τ) (next : UInt64) :
    Seat τ × UInt64 :=
  let (session, next) := Session.openNext backend policy next
  ({ session, world := { transport } }, next)

/-- A registration that is refused because one is in force leaves that one's signal alone. -/
def register (seat : Seat τ) (machine : Machine) (shutdown : Shutdown) (handler : Handler) :
    Reply × Seat τ × Machine :=
  if seat.present then
    let callback := handler.callback seat.session.handle seat.world.notices
    let (result, session, machine) :=
      Session.register shutdown callback (seat.session, machine)
    let signalHeld := match result with
      | .error .alreadyRegistered => seat.signalHeld
      | _ => shutdown.held
    (.ofResult result, { seat with session, signalHeld }, machine)
  else
    (.noSession, seat, machine)

def verdict (seat : Seat τ) (packet : Packet) (verdict : Verdict) (replacement : Option Bytes) :
    Reply × Seat τ :=
  let (result, world) := seat.session.handle.setVerdict packet verdict replacement seat.world
  (.ofResult result, { seat with world })

def signal (seat : Seat τ) (raised : Bool) : Reply × Seat τ :=
  if seat.signalHeld then
    let (heard, session) := seat.session.signal { raised, held := true }
    (if heard then .done else .noReceiver, { seat with session })
  else
    (.noSender, seat)

/-- Without a holder the signal keeps its value for good, which ends a dispatcher that waits. -/
def releaseSignal (seat : Seat τ) : Seat τ :=
  if seat.signalHeld then
    let (_, session) := seat.session.signal { raised := false, held := false }
    { seat with session, signalHeld := false }
  else
    seat

def close (seat : Seat τ) (machine : Machine) : Reply × Seat τ × Machine :=
  if seat.present then
    let (result, session, world, machine) := Session.close (seat.session, seat.world, machine)
    (.ofResult result, { seat with session, world, present := false }, machine)
  else
    (.noSession, seat, machine)

/-- A session that is dropped stops dispatching and leaves everything else as it is. -/
def drop (seat : Seat τ) : Seat τ :=
  { seat with session := seat.session.abort, present := false }

def limit (seat : Seat τ) (table : Nat) (limits : TableLimits) : Seat τ :=
  { seat with session := { seat.session with
      backend := seat.session.backend.limit table limits } }

/-- Lets the dispatcher run until it waits. -/
def settle (seat : Seat τ) : Seat τ :=
  let (session, arrivals, world) := seat.session.resume seat.arrivals seat.world
  { seat with session, arrivals, world }

end Seat

namespace Bench

/-- Takes a kept packet out; its place stays empty. -/
def takePacket (bench : Bench τ) (index : Nat) : Option (Packet × Bench τ) :=
  match bench.kept[index]? with
  | some (some packet) => some (packet, { bench with kept := bench.kept.set index none })
  | _ => none

def perform (bench : Bench τ) (seat : Seat τ) : Step τ → Reply × Seat τ × Bench τ
  | .register shutdown handler =>
    let (reply, seat, machine) := seat.register bench.machine shutdown handler
    (reply, seat, { bench with machine })
  | .arrive arrival => (.done, { seat with arrivals := seat.arrivals ++ [arrival] }, bench)
  | .verdict index verdict replacement =>
    match bench.takePacket index with
    | none => (.noPacket, seat, bench)
    | some (packet, bench) =>
      let (reply, seat) := seat.verdict packet verdict replacement
      (reply, seat, bench)
  | .signal raised =>
    let (reply, seat) := seat.signal raised
    (reply, seat, bench)
  | .releaseSignal => (.done, seat.releaseSignal, bench)
  | .adjust change =>
    (.done, { seat with world := { seat.world with transport := change seat.world.transport } },
      bench)
  | .limit table limits => (.done, seat.limit table limits, bench)
  | .inform =>
    (if seat.present then .info seat.session.backend.kind seat.session.policy else .noSession,
      seat, bench)
  | .close =>
    let (reply, seat, machine) := seat.close bench.machine
    (reply, seat, { bench with machine })
  | .drop => (.done, seat.drop, bench)

/-- Performs a step on one session and lets its dispatcher run until it waits. What was seen in
earlier steps is cleared first; packets kept in this one join the others. -/
def step (bench : Bench τ) (index : Nat) (step : Step τ) : Option (Reply × Bench τ) :=
  match bench.seats[index]? with
  | none => none
  | some seat =>
    let seat := { seat with world := { seat.world with seen := [], kept := [] } }
    let (reply, seat, bench) := bench.perform seat step
    let seat := seat.settle
    some (reply, { bench with
      seats := bench.seats.set index seat
      kept := bench.kept ++ seat.world.kept.map some })

end Bench

end PacketDivert
