import PacketDivert.Error
import PacketDivert.Netlink.Kernel
import PacketDivert.Netlink.Message

/-! A kernel queue bound through a netlink socket. Every message sent carries the next sequence
number, whether sending it succeeds or not. -/

namespace PacketDivert.Netlink

/-- What the kernel is told to do with a packet. -/
inductive KernelVerdict where
  | drop
  | accept
  deriving DecidableEq, Repr

def KernelVerdict.code : KernelVerdict → UInt32
  | .drop => 0
  | .accept => 1

def KernelVerdict.name : KernelVerdict → String
  | .drop => "NF_DROP"
  | .accept => "NF_ACCEPT"

/-- What a verdict changes besides letting a packet go or not: its bytes, or the mark of its
connection. -/
inductive PacketChange where
  | none
  | payload (bytes : Bytes)
  | mark (value : UInt32)
  deriving DecidableEq, Repr

structure VerdictRequest where
  id : UInt32
  verdict : KernelVerdict
  change : PacketChange := .none
  deriving DecidableEq, Repr

def PacketChange.encode : PacketChange → Bytes
  | .none => []
  | .payload bytes => Attribute.encode PacketKind.payload.code bytes
  | .mark value =>
    Attribute.encodeNested PacketKind.conntrack.code
      (Attribute.encode ConntrackKind.mark.code (Bytes.be32 value))

def VerdictRequest.encode (request : VerdictRequest) : Bytes :=
  Attribute.encode PacketKind.verdictHeader.code
    (Bytes.be32 request.verdict.code ++ Bytes.be32 request.id) ++ request.change.encode

/-- The attributes of a configuration message. -/
inductive ConfigKind where
  | command
  | copyMode
  | maxLength
  | mask
  | flags
  deriving DecidableEq, Repr

def ConfigKind.code : ConfigKind → UInt16
  | .command => 1
  | .copyMode => 2
  | .maxLength => 3
  | .mask => 4
  | .flags => 5

inductive ConfigCommand where
  | bind
  | unbind
  deriving DecidableEq, Repr

def ConfigCommand.code : ConfigCommand → UInt8
  | .bind => 1
  | .unbind => 2

/-- A command is followed by padding and an unspecified protocol family. -/
def ConfigCommand.encode (command : ConfigCommand) : Bytes :=
  Attribute.encode ConfigKind.command.code [command.code, 0, 0, 0]

/-- How a queue is bound: bytes of each packet that are copied, packets that are kept, and socket
buffer sizes, where 0 means the kernel's own choice. -/
structure QueueOptions where
  queue : UInt16
  maxPacketLength : UInt32
  maxQueueLength : UInt32
  readBuffer : Option UInt64 := none
  writeBuffer : Option UInt64 := none
  deriving DecidableEq, Repr

/-- Packets are copied up to their given length, and reported with their connection tracking
entry. -/
def QueueOptions.encode (options : QueueOptions) : Bytes :=
  let copyPackets : UInt8 := 2
  let withConntrack : UInt32 := 2
  Attribute.encode ConfigKind.copyMode.code
    (Bytes.be32 options.maxPacketLength ++ [copyPackets]) ++
  Attribute.encode ConfigKind.maxLength.code (Bytes.be32 options.maxQueueLength) ++
  Attribute.encode ConfigKind.flags.code (Bytes.be32 withConntrack) ++
  Attribute.encode ConfigKind.mask.code (Bytes.be32 withConntrack)

/-- A queue and the number of the last message sent for it. -/
structure Queue where
  number : UInt16
  sequence : UInt32 := 0
  deriving DecidableEq, Repr

/-- A queue together with the kernel that serves it. -/
structure BoundQueue where
  queue : Queue
  kernel : Kernel
  deriving DecidableEq, Repr

namespace BoundQueue

/-- Sends the next message. The count begins again at 0 when all numbers are used up. A build that
checks its sums panics then. -/
def send (kind : MessageKind) (flags : UInt16) (attributes : Bytes) :
    Attempt SystemError BoundQueue Unit := fun bound =>
  let queue := { bound.queue with sequence := bound.queue.sequence + 1 }
  let (result, kernel) :=
    bound.kernel.send (Message.encode kind flags queue.sequence queue.number attributes)
  (result, { queue, kernel })

/-- Sends a configuration and waits for the status that answers it. -/
def configure (attributes : Bytes) : Attempt SystemError BoundQueue Unit := do
  send .config (Message.requestFlag ||| Message.statusFlag) attributes
  fun bound =>
    let (result, kernel) := bound.kernel.awaitStatus bound.queue.sequence
    (result, { bound with kernel })

def verdict (request : VerdictRequest) : Attempt SystemError BoundQueue Unit :=
  send .verdict Message.requestFlag request.encode

def close : Attempt SystemError BoundQueue Unit :=
  send .config Message.requestFlag ConfigCommand.unbind.encode

/-- Something done to the socket alone. -/
def onKernel (act : Attempt SystemError Kernel Unit) : Attempt SystemError BoundQueue Unit :=
  fun bound =>
    let (result, kernel) := act bound.kernel
    (result, { bound with kernel })

/-- A stage of the setup, and what is said when it fails. -/
def stage (failed : String) (act : Attempt SystemError BoundQueue Unit) :
    Attempt Error BoundQueue Unit :=
  act.mapError fun cause => .setup s!"{failed}: {cause.message}"

/-- A buffer size is set if one is asked for. -/
def sizeStage (what : String) (set : UInt64 → Attempt SystemError Kernel Unit) :
    Option UInt64 → Attempt Error BoundQueue Unit
  | none => pure ()
  | some size =>
    if size = 0 then pure ()
    else stage s!"failed to set {what} buffer to {size.toNat}" (onKernel (set size))

/-- Opens a socket, binds the queue to it and configures the queue. The first stage that fails
ends the setup. -/
def setUp (options : QueueOptions) : Attempt Error BoundQueue Unit := do
  stage "failed to open netfilter netlink socket" (onKernel Kernel.openSocket)
  stage "failed to bind netlink socket" (onKernel Kernel.bind)
  sizeStage "read" Kernel.setReceiveBuffer options.readBuffer
  sizeStage "write" Kernel.setSendBuffer options.writeBuffer
  stage s!"failed to bind queue {options.queue.toNat}" (configure ConfigCommand.bind.encode)
  stage s!"failed to configure queue {options.queue.toNat}" (configure options.encode)

/-- Binds a queue through a new socket. -/
def openQueue (options : QueueOptions) : Attempt Error Kernel Queue := fun kernel =>
  match setUp options { queue := { number := options.queue }, kernel } with
  | (.ok (), bound) => (.ok bound.queue, bound.kernel)
  | (.error fault, bound) => (.error fault, bound.kernel)

/-- What arrives with one datagram. -/
def receive (datagram : Bytes) : Except SystemError (List PacketReport) :=
  PacketReport.ofDatagram (datagram.take Kernel.readLength)

end BoundQueue

end PacketDivert.Netlink
