import PacketDivert.Netlink.Attribute
import PacketDivert.SystemError

/-! Netlink messages: a 16-byte header (length, kind, flags, sequence number, sender) and a body,
padded to a multiple of four. A datagram is a sequence of messages. -/

namespace PacketDivert.Netlink

/-- A message as it is received. -/
structure Message where
  kind : UInt16
  sequence : UInt32
  body : Bytes
  deriving DecidableEq, Repr

/-- The kinds of messages of the queue subsystem. -/
inductive MessageKind where
  | packet
  | verdict
  | config
  deriving DecidableEq, Repr

def MessageKind.code : MessageKind → UInt16
  | .packet => 0x300
  | .verdict => 0x301
  | .config => 0x302

namespace Message

/-- Asks the kernel to act on a message. -/
def requestFlag : UInt16 := 1

/-- Asks the kernel to answer with a status. -/
def statusFlag : UInt16 := 4

/-- The kind of a status message. -/
def statusKind : UInt16 := 2

def badLength (offset length : Nat) : SystemError :=
  .invalidData s!"netlink message at offset {offset} has invalid length {length}"

/-- Splits what follows `offset` of a datagram into messages. A message that does not fit the
datagram ends the list; fewer bytes than a header are left unread. -/
def framesAt (offset : Nat) (stream : Bytes) : List (Except SystemError Message) :=
  if (stream.take 16).length < 16 then []
  else
    let length := (Bytes.word32At stream 0).toNat
    if length < 16 ∨ (stream.take length).length < length then
      [.error (badLength offset length)]
    else
      .ok {
        kind := Bytes.word16At stream 4
        sequence := Bytes.word32At stream 8
        body := (stream.take length).drop 16 } ::
      framesAt (offset + align length) (stream.drop (align length))
  termination_by stream.length
  decreasing_by
    have := le_align (Bytes.word32At stream 0).toNat
    simp only [List.length_take, List.length_drop] at *
    omega

def frames (datagram : Bytes) : List (Except SystemError Message) := framesAt 0 datagram

/-- A message to a queue. After the header stand an unspecified address family, version 0 and
the number of the queue. -/
def encode (kind : MessageKind) (flags : UInt16) (sequence : UInt32) (queue : UInt16)
    (attributes : Bytes) : Bytes :=
  Bytes.le32 (UInt32.ofNat (20 + attributes.length)) ++ Bytes.le16 kind.code ++
    Bytes.le16 flags ++ Bytes.le32 sequence ++ Bytes.le32 0 ++ [0, 0] ++ Bytes.be16 queue ++
    attributes

/-- What a status message says: its first four bytes are 0 or a negated error number. -/
def status (body : Bytes) : Except SystemError Unit :=
  if (body.take 4).length < 4 then .error (.invalidData "short netlink error message")
  else
    let code := (Bytes.word32At body 0).toInt32
    if code = 0 then .ok () else .error (.code (-code))

/-- The status that answers a request, if it comes before the first malformed message. -/
def statusOf (sequence : UInt32) :
    List (Except SystemError Message) → Option (Except SystemError Unit)
  | [] => none
  | .error fault :: _ => some (.error fault)
  | .ok message :: rest =>
    if message.kind = statusKind ∧ message.sequence = sequence then some (status message.body)
    else statusOf sequence rest

end Message

/-- The attributes of a packet report and of a verdict. -/
inductive PacketKind where
  | packetHeader
  | verdictHeader
  | payload
  | conntrack
  deriving DecidableEq, Repr

def PacketKind.code : PacketKind → UInt16
  | .packetHeader => 1
  | .verdictHeader => 2
  | .payload => 10
  | .conntrack => 11

/-- A queued packet as the kernel reports it; any part may be missing. -/
structure PacketReport where
  id : Option UInt32 := none
  payload : Option Bytes := none
  conntrack : Option Bytes := none
  deriving DecidableEq, Repr

namespace PacketReport

/-- What one attribute adds to a report. A later attribute of a kind replaces an earlier one. -/
def add (report : PacketReport) (record : Attribute) : PacketReport :=
  if record.kind = PacketKind.packetHeader.code then { report with id := record.word? }
  else if record.kind = PacketKind.payload.code then { report with payload := some record.data }
  else if record.kind = PacketKind.conntrack.code then
    { report with conntrack := some record.data }
  else report

/-- The report in a message body: its attributes follow the four bytes that name the queue. -/
def ofBody (body : Bytes) : Except SystemError PacketReport :=
  match Attribute.parse (body.drop 4) with
  | .error fault => .error (.invalidData fault.message)
  | .ok attributes => .ok (attributes.foldl add {})

/-- The reports among messages, in order. A malformed message or report, or a status that is an
error, decides the whole. -/
def ofFrames : List (Except SystemError Message) → Except SystemError (List PacketReport)
  | [] => .ok []
  | .error fault :: _ => .error fault
  | .ok message :: rest =>
    if message.kind = Message.statusKind then
      match Message.status message.body with
      | .error fault => .error fault
      | .ok () => ofFrames rest
    else if message.kind = MessageKind.packet.code then
      match ofBody message.body with
      | .error fault => .error fault
      | .ok report => (ofFrames rest).map (report :: ·)
    else ofFrames rest

def ofDatagram (datagram : Bytes) : Except SystemError (List PacketReport) :=
  ofFrames (Message.frames datagram)

end PacketReport

end PacketDivert.Netlink
