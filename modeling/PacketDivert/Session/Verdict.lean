import PacketDivert.Netlink.Queue

namespace PacketDivert

open Netlink (KernelVerdict PacketChange PacketReport VerdictRequest)

/-- A report without an id cannot be answered; one that cannot be inspected is answered at once;
all others are handed on. -/
inductive Disposition where
  | unanswerable
  | settled (id : UInt32) (verdict : KernelVerdict)
  | eligible (id : UInt32) (payload conntrack : Bytes)
  deriving DecidableEq, Repr

/-- Fewer bytes than an IP header are not a packet. -/
def minPacketLength : Nat := 20

/-- A packet without connection tracking entry is let through if it is local traffic. -/
def untrackedVerdict (localTraffic : Bool) : KernelVerdict :=
  if localTraffic then .accept else .drop

def Disposition.of (localTraffic : Bool) (report : PacketReport) : Disposition :=
  match report.id with
  | none => .unanswerable
  | some id =>
    match report.payload with
    | none => .settled id .drop
    | some payload =>
      if payload.length < minPacketLength then .settled id .drop
      else
        match report.conntrack with
        | none => .settled id (untrackedVerdict localTraffic)
        | some conntrack => .eligible id payload conntrack

/-- A queued packet in the hands of its session. The stream is the id of its connection, 0 if
that is unknown. -/
structure Packet where
  id : UInt32
  stream : UInt32
  data : Bytes
  session : Nat
  deriving DecidableEq, Repr

def streamOf (conntrack : Bytes) : UInt32 := (Netlink.conntrackId conntrack).getD 0

inductive Notice where
  | packet (packet : Packet)
  | error (error : Error)
  deriving DecidableEq, Repr

/-- Whether dispatching goes on after a notice. -/
inductive Flow where
  | proceed
  | stop
  deriving DecidableEq, Repr

inductive Verdict where
  | accept
  | acceptModify
  | acceptStream
  | drop
  | dropStream
  deriving DecidableEq, Repr

namespace Verdict

def all : List Verdict := [accept, acceptModify, acceptStream, drop, dropStream]

def name : Verdict → String
  | accept => "accept"
  | acceptModify => "accept-modify"
  | acceptStream => "accept-stream"
  | drop => "drop"
  | dropStream => "drop-stream"

def ofName? (text : String) : Option Verdict := all.find? (·.name == text)

theorem ofName?_name (verdict : Verdict) : ofName? verdict.name = some verdict := by
  cases verdict <;> decide

end Verdict

/-- A world that holds the transport of a session: verdicts can be sent, and the queue unbound. -/
class Transport (ω : Type) where
  send : VerdictRequest → Attempt SystemError ω Unit
  close : Attempt SystemError ω Unit

instance : Transport Netlink.BoundQueue where
  send := Netlink.BoundQueue.verdict
  close := Netlink.BoundQueue.close

/-- What is needed to answer the packets of one session. -/
structure VerdictHandle where
  session : Nat
  acceptMark : UInt32
  dropMark : UInt32
  deriving DecidableEq, Repr

namespace VerdictHandle

/-- The request that carries out a verdict. A verdict on a stream marks its connection; a
replacement counts only where a packet is modified. -/
def request (handle : VerdictHandle) (id : UInt32) (replacement : Option Bytes) :
    Verdict → VerdictRequest
  | .accept => ⟨id, .accept, .none⟩
  | .acceptModify =>
    match replacement with
    | some bytes => ⟨id, .accept, .payload bytes⟩
    | none => ⟨id, .accept, .none⟩
  | .acceptStream => ⟨id, .accept, .mark handle.acceptMark⟩
  | .drop => ⟨id, .drop, .none⟩
  | .dropStream => ⟨id, .drop, .mark handle.dropMark⟩

variable {ω : Type} [Transport ω]

/-- Only packets of the handle's own session are answered. -/
def setVerdict (handle : VerdictHandle) (packet : Packet) (verdict : Verdict)
    (replacement : Option Bytes) : Attempt Error ω Unit :=
  if packet.session = handle.session then
    (Transport.send (handle.request packet.id replacement verdict)).mapError .transport
  else
    .fail .invalidPacket

end VerdictHandle

end PacketDivert
