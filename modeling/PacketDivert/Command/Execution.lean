import PacketDivert.Command.Arguments
import PacketDivert.Session.Lifecycle

namespace PacketDivert

open Netlink (BoundQueue Kernel)

/-- What a command leaves behind. -/
structure CommandResult where
  exitCode : UInt8
  output : String := ""
  errors : String := ""
  deriving DecidableEq, Repr

namespace Command

/-- An error is told with advice if there is any. -/
def result : Except Error String → CommandResult
  | .ok output => { exitCode := 0, output }
  | .error error => {
      exitCode := 1
      errors := "Error: " ++ error.message ++ "\n" ++
        match error.hint with
        | none => ""
        | some hint => "Hint: " ++ hint ++ "\n" }

def usage : String := Nftables.unlines [
  "Usage: <COMMAND>",
  "",
  "Commands:",
  "  rules [--local] [--rst] [-f, --format <nft|ipt>]  Print the divert rules for a policy",
  "  probe                                             Show which firewall backend would be selected",
  "  run [-c, --config <FILE>] [--verdict <VERDICT>]   Queue packets and apply a fixed verdict",
  "  help                                              Print this message"]

def refusal : NoCommand → CommandResult
  | .help => { exitCode := 0, output := usage }
  | .version => { exitCode := 0, output := "0.1.0\n" }
  | .misuse => { exitCode := 2, errors := usage }

/-- The divert rules of a policy: a script of the one tool, or a line for each rule of the other. -/
def printRules (localTraffic reset : Bool) (format : RuleFormat) : Except Error String := do
  let policy ← Policy.make localTraffic reset
  match format with
  | .nft => return (← Nftables.divertRuleset policy .usual).listing.text
  | .ipt => return Nftables.unlines ((← Iptables.divertRules policy .usual).map Iptables.Rule.text)

def printProbe (environment : Environment) : Except Error String := do
  let backend ← environment.probe .usual
  return "Backend: " ++ backend.kind.name ++ "\n"

/-- Answers every packet in the same way. Verdicts that fail and other errors are let pass. -/
def answerAll {ω : Type} [Transport ω] (handle : VerdictHandle) (verdict : Verdict) : Callback ω
  | .packet packet, world => (.proceed, (handle.setVerdict packet verdict none world).2)
  | .error _, world => (.proceed, world)

/-- What is left of a machine after queueing, and whether it went on until it was interrupted. -/
structure QueueRun where
  result : Except Error Unit
  interrupted : Bool
  kernel : Kernel
  machine : Machine

/-- Answers packets until interrupted, which happens when all that the kernel delivers is
answered. Whatever happens, a session that was opened is closed. -/
def queuePackets (settings : Settings) (verdict : Verdict) (environment : Environment)
    (kernel : Kernel) (machine : Machine) : QueueRun :=
  match settings.openSession environment kernel with
  | (.error error, kernel) => { result := .error error, interrupted := false, kernel, machine }
  | (.ok opened, kernel) =>
    let session : Session BoundQueue := Session.openWith 1 opened.backend opened.policy
    let (world, arrivals) := opened.transport kernel
    let (registered, session, machine) :=
      Session.register { raised := false, held := true } (answerAll session.handle verdict)
        (session, machine)
    let (session, _, world) := session.resume arrivals world
    let (closed, _, world, machine) := Session.close (session, world, machine)
    let kernel := world.kernel
    match registered, closed with
    | .ok (), _ => { result := closed, interrupted := true, kernel, machine }
    | .error _, .error error => { result := .error error, interrupted := false, kernel, machine }
    | .error error, .ok () => { result := .error error, interrupted := false, kernel, machine }

def loadSettings (files : FileSystem) : Option String → Except Error Settings
  | none => .ok {}
  | some path =>
    match files.read path with
    | .error cause => .error (.io cause)
    | .ok content => Settings.load content

/-- Carries out a command. -/
def execute (environment : Environment) (kernel : Kernel) (machine : Machine) :
    Command → CommandResult × Option QueueRun
  | .rules localTraffic reset format => (result (printRules localTraffic reset format), none)
  | .probe => (result (printProbe environment), none)
  | .run config verdict =>
    match loadSettings environment.files config with
    | .error error => (result (.error error), none)
    | .ok settings =>
      let run := queuePackets settings verdict environment kernel machine
      (result (run.result.map fun _ => ""), some run)

end Command

end PacketDivert
