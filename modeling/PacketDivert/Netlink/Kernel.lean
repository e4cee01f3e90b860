import PacketDivert.Attempt
import PacketDivert.Netlink.Message

namespace PacketDivert.Netlink

inductive KernelCall where
  | openSocket (family type protocol : Nat)
  | bind (family portId groups : Nat)
  | receiveBuffer (size : Int32)
  | sendBuffer (size : Int32)
  | send (message : Bytes) (refused : Option Int32)
  deriving DecidableEq, Repr

/-- A refused call carries the number of its error. The datagrams are read in order; the calls are
kept oldest first, refused ones too. -/
structure Kernel where
  openRefused : Option Int32 := none
  bindRefused : Option Int32 := none
  receiveBufferRefused : Option Int32 := none
  sendBufferRefused : Option Int32 := none
  sendsRefused : List (Option Int32) := []
  datagrams : List Bytes := []
  calls : List KernelCall := []
  deriving DecidableEq, Repr

namespace Kernel

/-- The room for one datagram; the rest of a longer one is lost. -/
def readLength : Nat := 0xFFFF + 4096

def outcome : Option Int32 → Except SystemError Unit
  | none => .ok ()
  | some number => .error (.code number)

/-- A call that is recorded and ends as the kernel decides. -/
def perform (call : KernelCall) (refused : Kernel → Option Int32) :
    Attempt SystemError Kernel Unit := fun kernel =>
  (outcome (refused kernel), { kernel with calls := kernel.calls ++ [call] })

/-- A raw netfilter socket. -/
def openSocket : Attempt SystemError Kernel Unit := perform (.openSocket 16 3 12) openRefused

def bind : Attempt SystemError Kernel Unit := perform (.bind 16 0 0) bindRefused

/-- The kernel takes a buffer size as a signed 32-bit number. -/
def setReceiveBuffer (size : UInt64) : Attempt SystemError Kernel Unit :=
  perform (.receiveBuffer size.toUInt32.toInt32) receiveBufferRefused

def setSendBuffer (size : UInt64) : Attempt SystemError Kernel Unit :=
  perform (.sendBuffer size.toUInt32.toInt32) sendBufferRefused

def send (message : Bytes) : Attempt SystemError Kernel Unit := fun kernel =>
  let refused := kernel.sendsRefused.head?.join
  (outcome refused, { kernel with
    sendsRefused := kernel.sendsRefused.tail
    calls := kernel.calls ++ [.send message refused] })

/-- Reads datagrams until one answers the request with the given number, or is malformed before
it does. -/
def statusAmong (sequence : UInt32) : List Bytes → Except SystemError Unit × List Bytes
  | [] => (.error .wouldBlock, [])
  | datagram :: rest =>
    match Message.statusOf sequence (Message.frames (datagram.take readLength)) with
    | some result => (result, rest)
    | none => statusAmong sequence rest

def awaitStatus (sequence : UInt32) : Attempt SystemError Kernel Unit := fun kernel =>
  let (result, datagrams) := statusAmong sequence kernel.datagrams
  (result, { kernel with datagrams })

end Kernel

end PacketDivert.Netlink
