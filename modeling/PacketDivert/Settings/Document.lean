import PacketDivert.Rules.Policy
import PacketDivert.Settings.Number
import PacketDivert.Text.Quoted
import PacketDivert.Text.Shortest
import PacketDivert.Text.Utf8

/-! The settings document: an object with at most six fields, each at most once, or the values of
the first few fields as an array. It is read from left to right, and the first thing that does not
fit decides the fault. -/

namespace PacketDivert

/-- How a session is to be run, as far as it can be configured. -/
structure Settings where
  queueSize : UInt32 := 128
  readBuffer : Option UInt64 := none
  writeBuffer : Option UInt64 := none
  localTraffic : Bool := false
  reset : Bool := false
  tableName : String := "opengfw"
  deriving DecidableEq, Repr

namespace Settings

inductive Field where
  | queueSize
  | readBuffer
  | writeBuffer
  | localTraffic
  | reset
  | tableName
  deriving DecidableEq, Repr

namespace Field

/-- The fields in the order of an array. -/
def all : List Field := [queueSize, readBuffer, writeBuffer, localTraffic, reset, tableName]

def name : Field → String
  | queueSize => "queue_size"
  | readBuffer => "read_buffer"
  | writeBuffer => "write_buffer"
  | localTraffic => "local"
  | reset => "rst"
  | tableName => "table_name"

def ofName? (text : String) : Option Field := all.find? (·.name == text)

theorem ofName?_name (field : Field) : ofName? field.name = some field := by
  cases field <;> decide

end Field

def isSpace (letter : Char) : Bool :=
  letter == ' ' || letter == '\n' || letter == '\t' || letter == '\r'

def skipSpace (text : List Char) : List Char := text.dropWhile isSpace

/-- The rest of a word that has begun. -/
def scanWord : List Char → List Char → Except DocumentFault (List Char)
  | [], text => .ok text
  | _ :: _, [] => .error .incomplete
  | wanted :: word, letter :: text =>
    if wanted = letter then scanWord word text else .error .malformed

/-- What a number is called when it is not what was expected. -/
def Number.description : Number → String
  | .natural value => s!"integer `{value}`"
  | .negative magnitude => s!"integer `-{magnitude}`"
  | .real value => s!"floating point `{Text.shortestDecimal value}`"

def invalidType (found expected : String) : DocumentFault :=
  .data s!"invalid type: {found}, expected {expected}"

/-- The fault of a text that stands where a value of some other kind was expected. -/
def mismatch (expected : String) (text : List Char) : DocumentFault :=
  let unlessFaulty {α : Type} (scanned : Except DocumentFault α) (found : α → String) :=
    match scanned with
    | .error fault => fault
    | .ok value => invalidType (found value) expected
  match text with
  | [] => .incomplete
  | 'n' :: rest => unlessFaulty (scanWord "ull".toList rest) fun _ => "null"
  | 't' :: rest => unlessFaulty (scanWord "rue".toList rest) fun _ => "boolean `true`"
  | 'f' :: rest => unlessFaulty (scanWord "alse".toList rest) fun _ => "boolean `false`"
  | '-' :: rest => unlessFaulty (scanNumber true rest) fun number => number.1.description
  | '"' :: rest => unlessFaulty (scanString rest) fun string => s!"string {Text.quote string.1}"
  | '[' :: _ => invalidType "sequence" expected
  | '\x7b' :: _ => invalidType "map" expected
  | letter :: rest =>
    if letter.isDigit then
      unlessFaulty (scanNumber false (letter :: rest)) fun number => number.1.description
    else .malformed

/-- A whole number below a bound. -/
def natural (expected : String) (bound : Nat) (number : Number) : Except DocumentFault Nat :=
  match number with
  | .natural value =>
    if value < bound then .ok value
    else .error (.data s!"invalid value: {number.description}, expected {expected}")
  | .negative _ => .error (.data s!"invalid value: {number.description}, expected {expected}")
  | .real _ => .error (invalidType number.description expected)

def scanNatural (expected : String) (bound : Nat) (text : List Char) : Scanned Nat :=
  let number? : Option (Scanned Number) := match text with
    | '-' :: rest => some (scanNumber true rest)
    | letter :: rest => if letter.isDigit then some (scanNumber false (letter :: rest)) else none
    | [] => none
  match number? with
  | none => .error (mismatch expected text)
  | some (.error fault) => .error fault
  | some (.ok (number, rest)) => (natural expected bound number).map (·, rest)

def scanOptional (expected : String) (bound : Nat) (text : List Char) : Scanned (Option Nat) :=
  match text with
  | 'n' :: rest => (scanWord "ull".toList rest).map (none, ·)
  | _ => (scanNatural expected bound text).map fun (value, rest) => (some value, rest)

def scanBoolean (text : List Char) : Scanned Bool :=
  match text with
  | 't' :: rest => (scanWord "rue".toList rest).map (true, ·)
  | 'f' :: rest => (scanWord "alse".toList rest).map (false, ·)
  | _ => .error (mismatch "a boolean" text)

def scanText (text : List Char) : Scanned (List Char) :=
  match text with
  | '"' :: rest => scanString rest
  | _ => .error (mismatch "a string" text)

/-- Reads the value of a field into settings. -/
def Field.scan (field : Field) (settings : Settings) (text : List Char) : Scanned Settings :=
  let text := skipSpace text
  match field with
  | .queueSize => (scanNatural "u32" UInt32.size text).map fun (value, rest) =>
    ({ settings with queueSize := UInt32.ofNat value }, rest)
  | .readBuffer => (scanOptional "usize" UInt64.size text).map fun (value, rest) =>
    ({ settings with readBuffer := value.map UInt64.ofNat }, rest)
  | .writeBuffer => (scanOptional "usize" UInt64.size text).map fun (value, rest) =>
    ({ settings with writeBuffer := value.map UInt64.ofNat }, rest)
  | .localTraffic => (scanBoolean text).map fun (value, rest) =>
    ({ settings with localTraffic := value }, rest)
  | .reset => (scanBoolean text).map fun (value, rest) =>
    ({ settings with reset := value }, rest)
  | .tableName => (scanText text).map fun (value, rest) =>
    ({ settings with tableName := String.ofList value }, rest)

/-- The values of an array, for the fields still to come. The text stands before a value or a
comma, or at the end. -/
def scanElements (first : Bool) : List Field → Settings → List Char → Scanned Settings
  | [], settings, text =>
    match skipSpace text with
    | [] => .error .incomplete
    | ']' :: rest => .ok (settings, rest)
    | _ :: _ => .error .malformed
  | field :: fields, settings, text =>
    let value (text : List Char) : Scanned Settings :=
      match field.scan settings text with
      | .error fault => .error fault
      | .ok (settings, rest) => scanElements false fields settings rest
    match skipSpace text with
    | [] => .error .incomplete
    | ']' :: rest => .ok (settings, rest)
    | letter :: rest =>
      if first then value (letter :: rest)
      else if letter = ',' then
        match skipSpace rest with
        | [] => .error .incomplete
        | ']' :: _ => .error .malformed
        | rest => value rest
      else .error .malformed

def unknownField (name : String) : DocumentFault :=
  .data (s!"unknown field `{name}`, expected one of " ++
    ", ".intercalate (Field.all.map fun field => s!"`{field.name}`"))

def duplicateField (field : Field) : DocumentFault := .data s!"duplicate field `{field.name}`"

/-- A name among the fields that have no value yet, and the colon after it. -/
def scanName (missing : List Field) (text : List Char) : Scanned { field // field ∈ missing } :=
  match scanString text with
  | .error fault => .error fault
  | .ok (name, rest) =>
    match Field.ofName? (String.ofList name) with
    | none => .error (unknownField (String.ofList name))
    | some field =>
      if awaited : field ∈ missing then
        match skipSpace rest with
        | [] => .error .incomplete
        | ':' :: rest => .ok (⟨field, awaited⟩, rest)
        | _ :: _ => .error .malformed
      else .error (duplicateField field)

/-- The members of an object, as long as fields are missing: a name that comes a second time is a
fault, so there are never more members than fields. -/
def scanMembers (first : Bool) (missing : List Field) (settings : Settings) (text : List Char) :
    Scanned Settings :=
  let member (text : List Char) : Scanned Settings :=
    match scanName missing text with
    | .error fault => .error fault
    | .ok (⟨field, awaited⟩, rest) =>
      match field.scan settings rest with
      | .error fault => .error fault
      | .ok (settings, rest) =>
        have : (missing.erase field).length < missing.length := by
          have := List.length_pos_of_mem awaited
          rw [List.length_erase_of_mem awaited]
          omega
        scanMembers false (missing.erase field) settings rest
  match skipSpace text with
  | [] => .error .incomplete
  | '\x7d' :: rest => .ok (settings, rest)
  | letter :: rest =>
    if first then
      if letter = '"' then member rest else .error .malformed
    else if letter = ',' then
      match skipSpace rest with
      | [] => .error .incomplete
      | '"' :: rest => member rest
      | _ :: _ => .error .malformed
    else .error .malformed
  termination_by missing.length

def scanDocument (text : List Char) : Scanned Settings :=
  match skipSpace text with
  | '[' :: rest => scanElements true Field.all {} rest
  | '\x7b' :: rest => scanMembers true Field.all {} rest
  | text => .error (mismatch "struct QueueConfig" text)

/-- Reads a whole document; nothing but space may follow it. -/
def parse (text : List Char) : Except DocumentFault Settings :=
  match scanDocument text with
  | .error fault => .error fault
  | .ok (settings, rest) => if (skipSpace rest).isEmpty then .ok settings else .error .malformed

def writeOptional : Option UInt64 → List Char
  | none => "null".toList
  | some size => Nat.toDigits 10 size.toNat

def writeBoolean (value : Bool) : List Char := if value then "true".toList else "false".toList

def Field.write (settings : Settings) : Field → List Char
  | .queueSize => Nat.toDigits 10 settings.queueSize.toNat
  | .readBuffer => writeOptional settings.readBuffer
  | .writeBuffer => writeOptional settings.writeBuffer
  | .localTraffic => writeBoolean settings.localTraffic
  | .reset => writeBoolean settings.reset
  | .tableName => writeString settings.tableName.toList

def Field.writeMember (settings : Settings) (field : Field) : List Char :=
  writeString field.name.toList ++ ':' :: field.write settings

/-- The document with every field, in order and without space. -/
def write (settings : Settings) : List Char :=
  '\x7b' :: [','].intercalate (Field.all.map (Field.writeMember settings)) ++ ['\x7d']

/-- Settings that a session can honour: no reset of local traffic, and a usable table name. -/
def validate (settings : Settings) : Except Error Unit :=
  if settings.localTraffic && settings.reset then
    .error (.config "rst" "tcp reset is not supported in local mode")
  else
    match TableName.check settings.tableName with
    | .error fault => .error fault
    | .ok _ => .ok ()

def policy (settings : Settings) : Except Error Policy :=
  match settings.validate with
  | .error fault => .error fault
  | .ok () => Policy.make settings.localTraffic settings.reset

def notText : Error := .io (.invalidData "stream did not contain valid UTF-8")

/-- Reads and checks the content of a settings file. -/
def load (content : Bytes) : Except Error Settings :=
  match Text.Utf8.decode? content with
  | none => .error notText
  | some text =>
    match parse text with
    | .error fault => .error (.document fault)
    | .ok settings =>
      match settings.validate with
      | .error fault => .error fault
      | .ok () => .ok settings

end Settings

end PacketDivert
