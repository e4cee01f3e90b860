import PacketDivert.Firewall.Backend
import PacketDivert.Firewall.FileSystem

namespace PacketDivert

inductive Tool where
  | nft
  | iptables
  | ip6tables
  deriving DecidableEq, Repr

def Tool.name : Tool → String
  | .nft => "nft"
  | .iptables => "iptables"
  | .ip6tables => "ip6tables"

/-- Where tools are looked for: the search path, if there is one, and for each tool the program
that is to be used in its place, in the bytes that it was given in. -/
structure Environment where
  files : FileSystem := {}
  searchPath : Option String := none
  override : Tool → Option Bytes := fun _ => none

namespace Environment

/-- The directories of the search path. -/
def directories (environment : Environment) : List String :=
  match environment.searchPath with
  | none => []
  | some path => Text.split ':' path

/-- The first place on the search path where a name is a file. -/
def find? (environment : Environment) (name : String) : Option String :=
  (environment.directories.map (FileSystem.join · name)).find? environment.files.isFile

/-- A name that stands in for another counts if it is a text and not empty. -/
def overrideText? (override : Option Bytes) : Option String :=
  match override.bind Text.Utf8.decode? with
  | none => none
  | some [] => none
  | some letters => some (String.ofList letters)

/-- The program to start for a name: its override, else the name itself if it can be found. -/
def program? (environment : Environment) (name : String) (override : Option Bytes) :
    Option String :=
  match overrideText? override with
  | some program => some program
  | none => if (environment.find? name).isSome then some name else none

def tool? (environment : Environment) (tool : Tool) : Option String :=
  environment.program? tool.name (environment.override tool)

def noTool : Error := .setup "neither nft nor iptables was found in PATH"

def noSecondTool : Error :=
  .setup "nft not found and ip6tables missing for the iptables backend"

/-- Nftables if its tool is there, else iptables if both of its tools are. -/
def probe (environment : Environment) (params : DivertParams) : Except Error RuleBackend :=
  match environment.tool? .nft with
  | some program => .ok (.nft { program, params })
  | none =>
    match environment.tool? .iptables with
    | none => .error noTool
    | some first =>
      match environment.tool? .ip6tables with
      | none => .error noSecondTool
      | some second =>
        .ok (.legacy {
          tables := [
            .tool { program := first, family := "ipv4" },
            .tool { program := second, family := "ipv6" }]
          params })

/-- The outcome of trying one place after the other, after an earlier failure. Where nothing can be
started the search goes on, and any other failure ends it. A place that holds something else counts
for more than the failures after it. -/
def startFirst (failure : SystemError) : List (Except SystemError Unit) → Except SystemError Unit
  | [] => .error failure
  | .ok () :: _ => .ok ()
  | .error fault :: attempts =>
    if fault = .permissionDenied ∨ fault = .notFound ∨ fault = .notDirectory then
      startFirst (if failure = .permissionDenied then failure else fault) attempts
    else .error fault

/-- Where a program is tried. A directory that is no path for its length stands for the working
directory. -/
def candidates (environment : Environment) (program : String) : List String :=
  environment.directories.map fun directory =>
    if FileSystem.longestPath < directory.utf8ByteSize then program
    else FileSystem.join directory program

/-- Whether a program can be started: a path as it is, a name from the first place on the search
path where that works. -/
def start (environment : Environment) (program : String) : Except SystemError Unit :=
  if program.toList.contains '/' then environment.files.start program
  else if program.isEmpty then .error .notFound
  else if FileSystem.longestName < program.utf8ByteSize then .error .nameTooLong
  else startFirst .notFound ((environment.candidates program).map environment.files.start)

end Environment

end PacketDivert
