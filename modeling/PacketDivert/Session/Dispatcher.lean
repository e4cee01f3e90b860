import PacketDivert.Session.Verdict

/-! A dispatcher takes what arrives for a session, batch by batch, settles what nobody has to see
and hands the rest to a callback, until the callback or the shutdown signal stops it. -/

namespace PacketDivert

open Netlink (PacketReport VerdictRequest)

/-- A batch of reports, or why there is none. -/
abbrev Arrival := Except SystemError (List PacketReport)

/-- A callback acts on the world it shares with the transport. -/
abbrev Callback (ω : Type) := Notice → ω → Flow × ω

/-- The signal that ends dispatching: by its value, or because nobody can change it any more. -/
structure Shutdown where
  raised : Bool
  held : Bool
  deriving DecidableEq, Repr

def Shutdown.ends (shutdown : Shutdown) : Bool := shutdown.raised || !shutdown.held

structure Dispatcher (ω : Type) where
  session : Nat
  localTraffic : Bool
  shutdown : Shutdown
  callback : Callback ω

namespace Dispatcher

variable {ω : Type} [Transport ω]

/-- A packet settled without inspection; the callback hears of it only if that fails. -/
def settle (dispatcher : Dispatcher ω) (request : VerdictRequest) (world : ω) : Flow × ω :=
  match Transport.send request world with
  | (.ok (), world) => (.proceed, world)
  | (.error cause, world) => dispatcher.callback (.error (.transport cause)) world

def deliverOne (dispatcher : Dispatcher ω) (report : PacketReport) (world : ω) : Flow × ω :=
  match Disposition.of dispatcher.localTraffic report with
  | .unanswerable => (.proceed, world)
  | .settled id verdict => dispatcher.settle ⟨id, verdict, .none⟩ world
  | .eligible id payload conntrack =>
    dispatcher.callback (.packet ⟨id, streamOf conntrack, payload, dispatcher.session⟩) world

/-- Delivers a batch in order. What comes after a stop is not delivered. -/
def deliver (dispatcher : Dispatcher ω) : List PacketReport → ω → Flow × ω
  | [], world => (.proceed, world)
  | report :: reports, world =>
    match dispatcher.deliverOne report world with
    | (.stop, world) => (.stop, world)
    | (.proceed, world) => dispatcher.deliver reports world

/-- A full receive buffer is no reason to stop or to tell anybody. -/
def accept (dispatcher : Dispatcher ω) (arrival : Arrival) (world : ω) : Flow × ω :=
  match arrival with
  | .ok reports => dispatcher.deliver reports world
  | .error cause =>
    if cause = .noBufferSpace then (.proceed, world)
    else dispatcher.callback (.error (.transport cause)) world

/-- Takes arrivals one after the other. Says whether it was stopped, and what it left. -/
def drain (dispatcher : Dispatcher ω) : List Arrival → ω → Flow × List Arrival × ω
  | [], world => (.proceed, [], world)
  | arrival :: arrivals, world =>
    match dispatcher.accept arrival world with
    | (.stop, world) => (.stop, arrivals, world)
    | (.proceed, world) => dispatcher.drain arrivals world

/-- Runs until there is nothing left to do but wait. A signal to end is heeded before anything
that has arrived. -/
def resume (dispatcher : Dispatcher ω) (arrivals : List Arrival) (world : ω) :
    Flow × List Arrival × ω :=
  if dispatcher.shutdown.ends then (.stop, arrivals, world)
  else dispatcher.drain arrivals world

end Dispatcher

end PacketDivert
