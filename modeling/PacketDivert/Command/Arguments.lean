import PacketDivert.Session.Verdict

/-! The command line: a command, and its options in any order. Arguments are read from left to
right; the first one that asks for help or does not fit decides. -/

namespace PacketDivert

inductive RuleFormat where
  | nft
  | ipt
  deriving DecidableEq, Repr

def RuleFormat.ofName? : String → Option RuleFormat
  | "nft" => some .nft
  | "ipt" => some .ipt
  | _ => none

inductive Command where
  | rules (localTraffic reset : Bool) (format : RuleFormat)
  | probe
  | run (config : Option String) (verdict : Verdict)
  deriving DecidableEq, Repr

/-- Why there is no command to carry out. -/
inductive NoCommand where
  | help
  | version
  | misuse
  deriving DecidableEq, Repr

namespace Command

/-- What may be given to a command: a flag, or an option with a value that fits. -/
structure Accepted where
  long : String
  short : Option Char := none
  fits : Option (String → Bool) := none

/-- Something given, with its value if it takes one. -/
structure Given where
  long : String
  value : String := ""
  deriving DecidableEq, Repr

/-- A value in an argument of its own must not look like an option. -/
def looksLikeOption (argument : String) : Bool :=
  match argument.toList with
  | '-' :: _ :: _ => true
  | _ => false

def take (accepted : Accepted) (given : List Given) (value : String) :
    Except NoCommand (List Given) :=
  let repeated := given.any (·.long == accepted.long)
  let fitting := match accepted.fits with
    | none => true
    | some fits => fits value
  if repeated || !fitting then .error .misuse else .ok (given ++ [⟨accepted.long, value⟩])

/-- What one argument says: everything about itself, or an option whose value is to follow. -/
inductive Reading where
  | whole (accepted : Accepted) (value : String)
  | valueFollows (accepted : Accepted)
  | ended
  | not (reason : NoCommand)

/-- A long option, with its value after an equals sign if it has one there. -/
def readLong (all : List Accepted) (body : List Char) : Reading :=
  let name := String.ofList (body.takeWhile (· != '='))
  let attached := body.dropWhile (· != '=')
  match all.find? (·.long == name) with
  | none => .not (if name == "help" && attached.isEmpty then .help else .misuse)
  | some accepted =>
    match accepted.fits, attached with
    | none, [] => .whole accepted ""
    | none, _ :: _ => .not .misuse
    | some _, [] => .valueFollows accepted
    | some _, _ :: value => .whole accepted (String.ofList value)

/-- A short option, with its value right after it or after an equals sign. -/
def readShort (all : List Accepted) (letter : Char) (attached : List Char) : Reading :=
  match all.find? (·.short == some letter) with
  | none => .not (if letter == 'h' then .help else .misuse)
  | some accepted =>
    match attached with
    | [] => .valueFollows accepted
    | '=' :: value => .whole accepted (String.ofList value)
    | value => .whole accepted (String.ofList value)

def read (all : List Accepted) (argument : String) : Reading :=
  match argument.toList with
  | ['-', '-'] => .ended
  | '-' :: '-' :: body => readLong all body
  | '-' :: letter :: attached => readShort all letter attached
  | _ => .not .misuse

/-- What the arguments of a command give. No command takes arguments other than options. -/
def readAll (all : List Accepted) (given : List Given) :
    List String → Except NoCommand (List Given)
  | [] => .ok given
  | argument :: rest =>
    match read all argument with
    | .not reason => .error reason
    | .ended => if rest.isEmpty then .ok given else .error .misuse
    | .whole accepted value =>
      match take accepted given value with
      | .error reason => .error reason
      | .ok given => readAll all given rest
    | .valueFollows accepted =>
      match rest with
      | [] => .error .misuse
      | value :: rest =>
        if looksLikeOption value then .error .misuse
        else
          match take accepted given value with
          | .error reason => .error reason
          | .ok given => readAll all given rest

def flag (given : List Given) (name : String) : Bool := given.any (·.long == name)

def value? (given : List Given) (name : String) : Option String :=
  (given.find? (·.long == name)).map (·.value)

def acceptedByRules : List Accepted := [
  { long := "local" },
  { long := "rst" },
  { long := "format", short := some 'f',
    fits := some fun text => (RuleFormat.ofName? text).isSome }]

def acceptedByRun : List Accepted := [
  { long := "config", short := some 'c', fits := some fun text => !text.isEmpty },
  { long := "verdict", fits := some fun text => (Verdict.ofName? text).isSome }]

def parseRules (arguments : List String) : Except NoCommand Command := do
  let given ← readAll acceptedByRules [] arguments
  let format := (value? given "format").bind RuleFormat.ofName?
  return .rules (flag given "local") (flag given "rst") (format.getD .nft)

def parseProbe (arguments : List String) : Except NoCommand Command := do
  let _ ← readAll [] [] arguments
  return .probe

def parseRun (arguments : List String) : Except NoCommand Command := do
  let given ← readAll acceptedByRun [] arguments
  let verdict := (value? given "verdict").bind Verdict.ofName?
  return .run (value? given "config") (verdict.getD .accept)

/-- Help can be asked for by name, for one command. -/
def parseHelp : List String → NoCommand
  | [] => .help
  | [name] => if ["rules", "probe", "run", "help"].contains name then .help else .misuse
  | _ => .misuse

def parse : List String → Except NoCommand Command
  | [] => .error .misuse
  | "rules" :: rest => parseRules rest
  | "probe" :: rest => parseProbe rest
  | "run" :: rest => parseRun rest
  | "help" :: rest => .error (parseHelp rest)
  | "--version" :: _ => .error .version
  | argument :: _ =>
    match argument.toList with
    | '-' :: 'V' :: _ => .error .version
    | _ =>
      match read [] argument with
      | .not reason => .error reason
      | _ => .error .misuse

end Command

end PacketDivert
