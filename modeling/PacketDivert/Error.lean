import PacketDivert.SystemError
import PacketDivert.Text.Parts

namespace PacketDivert

/-- Why a configuration text was not understood: a value that does not fit, a text outside the
grammar, or a text that ends too early. -/
inductive DocumentFault where
  | data (message : String)
  | malformed
  | incomplete
  deriving DecidableEq, Repr

/-- A firewall tool that ran and failed. Its own words are kept if it had any; a tool killed by a
signal has no exit code. -/
structure ToolFailure where
  message : String
  stderr : Option String
  exitCode : Option Int32
  deriving DecidableEq, Repr

inductive Error where
  | io (cause : SystemError)
  | document (fault : DocumentFault)
  | setup (message : String)
  | transport (cause : SystemError)
  | invalidPacket
  | policyConflict
  | alreadyRegistered
  | nftables (failure : ToolFailure)
  | iptables (failure : ToolFailure)
  | config (field message : String)
  deriving DecidableEq, Repr

def DocumentFault.message : DocumentFault → String
  | .data message => message
  | .malformed => "malformed text"
  | .incomplete => "unexpected end of text"

namespace Error

def message : Error → String
  | .io cause => s!"I/O error: {cause.message}"
  | .document fault => s!"JSON error: {fault.message}"
  | .setup message => s!"setup error: {message}"
  | .transport cause => s!"queue transport error: {cause.message}"
  | .invalidPacket => "invalid packet: not produced by this queue session"
  | .policyConflict => "tcp reset is not supported in local mode"
  | .alreadyRegistered => "queue session is already registered"
  | .nftables failure => s!"nftables error: {failure.message}"
  | .iptables failure => s!"iptables error: {failure.message}"
  | .config field message => s!"configuration error in {field}: {message}"

/-- Advice on a failure, from what the failing tool said. The first phrase that fits decides. -/
def advice (text : String) : Option String :=
  let mention := Text.mentions text
  if mention "permission denied" || mention "operation not permitted" then
    some "run as root or grant CAP_NET_ADMIN"
  else if mention "could not process rule" && mention "no such file" then
    some "load the nf_tables and nfnetlink_queue kernel modules"
  else if mention "xtables lock" then
    some "another process holds the xtables lock, retry once it is released"
  else if mention "no such file" || mention "command not found" then
    some "install nftables, or iptables for the legacy backend"
  else if mention "queue" && mention "not supported" then
    some "load the nfnetlink_queue kernel module: modprobe nfnetlink_queue"
  else if mention "netlink" then
    some "check that nfnetlink is available: lsmod | grep nfnetlink"
  else
    none

/-- The text in which advice is sought: a tool's own words, else the failure's message. Errors
that name no cause outside the program get no advice. -/
def symptom? : Error → Option String
  | .nftables failure | .iptables failure => some (failure.stderr.getD failure.message)
  | .setup message => some message
  | _ => none

def hint (error : Error) : Option String := error.symptom?.bind advice

end Error

end PacketDivert
