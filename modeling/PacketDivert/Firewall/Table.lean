import PacketDivert.Firewall.Tool
import PacketDivert.Rules.Iptables

/-! Rule tables of one address family, kept in memory or by a tool. Each can tell whether it holds
a rule, append one at its end, and delete the first one equal to a given one. -/

namespace PacketDivert

inductive TableOperation where
  | contains
  | append
  | delete
  deriving DecidableEq, Repr

def TableOperation.name : TableOperation → String
  | .contains => "exists"
  | .append => "append"
  | .delete => "delete"

/-- The tool's option for an operation. -/
def TableOperation.option : TableOperation → String
  | .contains => "-C"
  | .append => "-A"
  | .delete => "-D"

structure TableCall where
  family : String
  operation : TableOperation
  rule : Iptables.Rule
  deriving DecidableEq, Repr

def TableCall.text (call : TableCall) : String :=
  call.family ++ " " ++ call.operation.name ++ " " ++ call.rule.text

/-- What rule tables act on besides themselves: the machine's tools, and the journal of the calls
to tables kept in memory, oldest first. -/
structure Machine where
  tools : ToolHost
  journal : List TableCall := []

def Machine.record (machine : Machine) (call : TableCall) : Machine :=
  { machine with journal := machine.journal ++ [call] }

def Machine.run (invocation : Invocation) : Attempt SystemError Machine ToolOutput := fun machine =>
  let (outcome, tools) := machine.tools.run invocation
  (outcome, { machine with tools })

/-- How many more calls of each kind succeed; without a number, all do. -/
structure TableLimits where
  contains : Option Nat := none
  append : Option Nat := none
  delete : Option Nat := none
  deriving DecidableEq, Repr

namespace TableLimits

/-- Uses up one call of a kind, if one is left. -/
def spend (limits : TableLimits) : TableOperation → Option TableLimits
  | .contains => (spendOne limits.contains).map ({ limits with contains := · })
  | .append => (spendOne limits.append).map ({ limits with append := · })
  | .delete => (spendOne limits.delete).map ({ limits with delete := · })
where
  spendOne : Option Nat → Option (Option Nat)
    | none => some none
    | some 0 => none
    | some (left + 1) => some (some left)

end TableLimits

/-- A table kept in memory. -/
structure MemoryTable where
  family : String
  rules : List Iptables.Rule
  limits : TableLimits := {}
  deriving DecidableEq, Repr

namespace MemoryTable

def refusal (operation : TableOperation) : Error := .iptables {
  message := operation.name ++ " refused"
  stderr := some "Another app is currently holding the xtables lock."
  exitCode := some 4 }

def ruleMissing : Error := .iptables {
  message := "no such rule"
  stderr := none
  exitCode := some 1 }

/-- Lets a call through as long as the limits allow. -/
def enter (operation : TableOperation) : Attempt Error MemoryTable Unit := fun table =>
  match table.limits.spend operation with
  | none => (.error (refusal operation), table)
  | some limits => (.ok (), { table with limits })

def contains (rule : Iptables.Rule) : Attempt Error MemoryTable Bool := do
  enter .contains
  fun table => (.ok (decide (rule ∈ table.rules)), table)

def append (rule : Iptables.Rule) : Attempt Error MemoryTable Unit := do
  enter .append
  fun table => (.ok (), { table with rules := table.rules ++ [rule] })

def delete (rule : Iptables.Rule) : Attempt Error MemoryTable Unit := do
  enter .delete
  fun table =>
    if rule ∈ table.rules then (.ok (), { table with rules := table.rules.erase rule })
    else (.error ruleMissing, table)

end MemoryTable

/-- A table kept by a tool such as `iptables`. The leading arguments, for a wrapper program, come
before all others. -/
structure ToolTable where
  program : String
  family : String
  leading : List String := []
  deriving DecidableEq, Repr

namespace ToolTable

def unstartable (program : String) (cause : SystemError) : Error :=
  .setup s!"failed to spawn {program}: {cause.message}"

/-- The arguments of one call. The tool waits for its lock instead of failing at once. -/
def arguments (operation : TableOperation) (rule : Iptables.Rule) : List String :=
  ["-w", "-t", rule.table, operation.option, rule.chain] ++ rule.spec

def run (table : ToolTable) (operation : TableOperation) (rule : Iptables.Rule) :
    Attempt Error Machine ToolOutput :=
  (Machine.run {
    program := table.program
    arguments := table.leading ++ arguments operation rule }).mapError (unstartable table.program)

def failure (table : ToolTable) (operation : TableOperation) (rule : Iptables.Rule)
    (output : ToolOutput) : Error :=
  .iptables (output.failure (table.program ++ " " ++ operation.option ++ " " ++ rule.text))

/-- The exit codes 0 and 1 of a check are answers, all else is a failure. -/
def contains (table : ToolTable) (rule : Iptables.Rule) : Attempt Error Machine Bool := do
  let output ← table.run .contains rule
  match output.status with
  | .exited code =>
    if code = 0 then pure true
    else if code = 1 then pure false
    else .fail (table.failure .contains rule output)
  | .killed _ _ => .fail (table.failure .contains rule output)

def change (table : ToolTable) (operation : TableOperation) (rule : Iptables.Rule) :
    Attempt Error Machine Unit := do
  let output ← table.run operation rule
  if output.succeeded then pure () else .fail (table.failure operation rule output)

end ToolTable

inductive RuleTable where
  | memory (table : MemoryTable)
  | tool (table : ToolTable)
  deriving DecidableEq, Repr

namespace RuleTable

def family : RuleTable → String
  | .memory table => table.family
  | .tool table => table.family

/-- A call to a table kept in memory; the journal has it whether it succeeds or not. -/
def callMemory {α : Type} (operation : TableOperation) (rule : Iptables.Rule)
    (act : Attempt Error MemoryTable α) (table : MemoryTable) (machine : Machine) :
    Except Error α × RuleTable × Machine :=
  let (result, after) := act table
  (result, .memory after, machine.record ⟨table.family, operation, rule⟩)

def callTool {α : Type} (act : Attempt Error Machine α) (table : ToolTable) (machine : Machine) :
    Except Error α × RuleTable × Machine :=
  let (result, after) := act machine
  (result, .tool table, after)

def contains (rule : Iptables.Rule) : Attempt Error (RuleTable × Machine) Bool
  | (.memory table, machine) => callMemory .contains rule (MemoryTable.contains rule) table machine
  | (.tool table, machine) => callTool (table.contains rule) table machine

def append (rule : Iptables.Rule) : Attempt Error (RuleTable × Machine) Unit
  | (.memory table, machine) => callMemory .append rule (MemoryTable.append rule) table machine
  | (.tool table, machine) => callTool (table.change .append rule) table machine

def delete (rule : Iptables.Rule) : Attempt Error (RuleTable × Machine) Unit
  | (.memory table, machine) => callMemory .delete rule (MemoryTable.delete rule) table machine
  | (.tool table, machine) => callTool (table.change .delete rule) table machine

/-- Appends a rule unless the table already holds it. -/
def ensurePresent (rule : Iptables.Rule) : Attempt Error (RuleTable × Machine) Unit := do
  if ← contains rule then pure () else append rule

/-- Deletes a rule if the table holds it. -/
def ensureAbsent (rule : Iptables.Rule) : Attempt Error (RuleTable × Machine) Unit := do
  if ← contains rule then delete rule else pure ()

/-- Does the same to each table in turn, up to the first failure. -/
def forEach (act : Attempt Error (RuleTable × Machine) Unit) :
    List RuleTable → Machine → Except Error Unit × List RuleTable × Machine
  | [], machine => (.ok (), [], machine)
  | table :: tables, machine =>
    match act (table, machine) with
    | (.error fault, table, machine) => (.error fault, table :: tables, machine)
    | (.ok (), table, machine) =>
      let (result, tables, machine) := forEach act tables machine
      (result, table :: tables, machine)

/-- Sets the limits of one of the tables kept in memory, counted from 0. -/
def limitMemory (limits : TableLimits) : Nat → List RuleTable → List RuleTable
  | _, [] => []
  | number, .tool table :: tables => .tool table :: limitMemory limits number tables
  | 0, .memory table :: tables => .memory { table with limits } :: tables
  | number + 1, .memory table :: tables => .memory table :: limitMemory limits number tables

end RuleTable

end PacketDivert
