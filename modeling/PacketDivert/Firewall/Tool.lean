import PacketDivert.Attempt
import PacketDivert.Bytes
import PacketDivert.Error
import PacketDivert.Text.Parts
import PacketDivert.Text.Utf8

namespace PacketDivert

/-- One start of a program. Without input its standard input is empty. -/
structure Invocation where
  program : String
  arguments : List String
  input : Option String := none
  deriving DecidableEq, Repr

/-- The character NUL ends a text that is handed to the system, so no such text can hold it. -/
def Invocation.holdsNul (invocation : Invocation) : Bool :=
  (invocation.program :: invocation.arguments).any fun text => text.toList.contains (Char.ofNat 0)

inductive ToolStatus where
  | exited (code : Int32)
  | killed (signal : Nat) (dumped : Bool := false)
  deriving DecidableEq, Repr

namespace ToolStatus

def signalNames : List (Nat × String) := [
  (1, "SIGHUP"), (2, "SIGINT"), (3, "SIGQUIT"), (4, "SIGILL"), (5, "SIGTRAP"), (6, "SIGABRT"),
  (7, "SIGBUS"), (8, "SIGFPE"), (9, "SIGKILL"), (10, "SIGUSR1"), (11, "SIGSEGV"),
  (12, "SIGUSR2"), (13, "SIGPIPE"), (14, "SIGALRM"), (15, "SIGTERM"), (16, "SIGSTKFLT"),
  (17, "SIGCHLD"), (18, "SIGCONT"), (19, "SIGSTOP"), (20, "SIGTSTP"), (21, "SIGTTIN"),
  (22, "SIGTTOU"), (23, "SIGURG"), (24, "SIGXCPU"), (25, "SIGXFSZ"), (26, "SIGVTALRM"),
  (27, "SIGPROF"), (28, "SIGWINCH"), (29, "SIGIO"), (30, "SIGPWR"), (31, "SIGSYS")]

def text : ToolStatus → String
  | .exited code => s!"exit status: {code.toInt}"
  | .killed signal dumped =>
    let name := match signalNames.lookup signal with
      | some name => s!" ({name})"
      | none => ""
    s!"signal: {signal}" ++ name ++ if dumped then " (core dumped)" else ""

/-- A tool killed by a signal has no exit code. -/
def exitCode : ToolStatus → Option Int32
  | .exited code => some code
  | .killed _ _ => none

end ToolStatus

structure ToolOutput where
  status : ToolStatus
  stderr : Bytes := []
  deriving DecidableEq, Repr

namespace ToolOutput

def succeeded (output : ToolOutput) : Bool := output.status == .exited 0

/-- What a tool said: its error output as text, without white space around it. -/
def words (output : ToolOutput) : String :=
  String.ofList (Text.trim (Text.Utf8.decodeLossy output.stderr))

/-- A tool that says nothing is described by what it was asked to do and how it ended. -/
def failure (output : ToolOutput) (what : String) : ToolFailure :=
  let words := output.words
  if words.isEmpty then
    ⟨s!"{what}: exited with {output.status.text}", none, output.status.exitCode⟩
  else
    ⟨words, some words, output.status.exitCode⟩

end ToolOutput

/-- A tool call and how it ended: the output of the program, or why it could not be started. -/
structure ToolCall where
  invocation : Invocation
  outcome : Except SystemError ToolOutput

def ToolCall.started (call : ToolCall) : Bool := call.outcome.isOk

/-- The programs of a machine. How a call ends may depend on all the calls before it; those are
kept, oldest first. -/
structure ToolHost where
  answer : List ToolCall → Invocation → Except SystemError ToolOutput
  calls : List ToolCall := []

namespace ToolHost

def run (invocation : Invocation) (host : ToolHost) :
    Except SystemError ToolOutput × ToolHost :=
  let outcome := host.answer host.calls invocation
  (outcome, { host with calls := host.calls ++ [⟨invocation, outcome⟩] })

/-- How a rule tool ends when nothing else is said: no rule is ever present, all else succeeds. -/
def usualAnswer (invocation : Invocation) : ToolOutput where
  status := .exited (if "-C" ∈ invocation.arguments then 1 else 0)

/-- Programs whose calls end as a list says, one entry for each call that is started. -/
def scripted (locate : String → Except SystemError Unit) (responses : List (Option ToolOutput)) :
    ToolHost where
  answer calls invocation :=
    if invocation.holdsNul then .error .nulInText
    else
      match locate invocation.program with
      | .error fault => .error fault
      | .ok () =>
        match responses[(calls.filter ToolCall.started).length]? with
        | some (some output) => .ok output
        | _ => .ok (usualAnswer invocation)

end ToolHost

end PacketDivert
