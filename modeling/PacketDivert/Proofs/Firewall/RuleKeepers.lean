import PacketDivert.Proofs.Firewall.Moments
import PacketDivert.Proofs.Firewall.ToolCalls

/-! Tools that keep the rules of a table as `iptables` does: what a call asks of them, and what it
leaves of the rules. -/

namespace PacketDivert

open Iptables (Rule)

namespace TableOperation

def ofOption? : String → Option TableOperation
  | "-C" => some .contains
  | "-A" => some .append
  | "-D" => some .delete
  | _ => none

theorem ofOption?_option (operation : TableOperation) :
    ofOption? operation.option = some operation := by
  cases operation <;> rfl

/-- What an operation makes of rules. -/
def edit : TableOperation → Rule → List Rule → List Rule
  | .contains, _, rules => rules
  | .append, rule, rules => rules ++ [rule]
  | .delete, rule, rules => rules.erase rule

/-- How a tool ends that keeps rules: 1 says that there is no such rule. -/
def exitCode : TableOperation → Rule → List Rule → Int32
  | .append, _, _ => 0
  | .contains, rule, rules | .delete, rule, rules => if rule ∈ rules then 0 else 1

end TableOperation

namespace ToolTable

/-- What arguments ask for. -/
def readArguments : List String → Option (TableOperation × Rule)
  | "-w" :: "-t" :: table :: option :: chain :: spec =>
    (TableOperation.ofOption? option).map (·, ⟨table, chain, spec⟩)
  | _ => none

theorem readArguments_arguments (operation : TableOperation) (rule : Rule) :
    readArguments (arguments operation rule) = some (operation, rule) := by
  simp only [arguments, List.cons_append, List.nil_append, readArguments,
    TableOperation.ofOption?_option, Option.map_some]

/-- What a call asks of the tool of a table. -/
def request? (table : ToolTable) (invocation : Invocation) : Option (TableOperation × Rule) :=
  (invocation.argumentsFor table.program table.leading).bind readArguments

def invocation (table : ToolTable) (operation : TableOperation) (rule : Rule) : Invocation where
  program := table.program
  arguments := table.leading ++ arguments operation rule

/-- No call asks something of both of two tables. -/
def Apart (one other : ToolTable) : Prop :=
  ∀ invocation, one.request? invocation = none ∨ other.request? invocation = none

theorem Apart.symm {one other : ToolTable} (apart : one.Apart other) : other.Apart one :=
  fun invocation => (apart invocation).symm

/-- A call that asks something of a table asks nothing of tables apart from it. -/
theorem Apart.request?_eq_none {one other : ToolTable} (apart : one.Apart other)
    {invocation : Invocation} {request : TableOperation × Rule}
    (asked : one.request? invocation = some request) : other.request? invocation = none :=
  (apart invocation).resolve_left (by simp [asked])

theorem request?_eq_some {table : ToolTable} {invocation : Invocation}
    {request : TableOperation × Rule} (asked : table.request? invocation = some request) :
    invocation.program = table.program ∧ table.leading <+: invocation.arguments := by
  obtain ⟨rest, found, _⟩ := Option.bind_eq_some_iff.mp asked
  obtain ⟨program, arguments⟩ := Invocation.argumentsFor_eq_some found
  exact ⟨program, rest, arguments.symm⟩

/-- Tables are apart if their programs differ, or their leading arguments do. -/
theorem Apart.of_different {one other : ToolTable}
    (different : one.program ≠ other.program ∨
      ¬one.leading <+: other.leading ∧ ¬other.leading <+: one.leading) : one.Apart other := by
  intro invocation
  by_contra both
  obtain ⟨first, second⟩ := not_or.mp both
  obtain ⟨_, asked⟩ := Option.ne_none_iff_exists'.mp first
  obtain ⟨_, askedOther⟩ := Option.ne_none_iff_exists'.mp second
  obtain ⟨program, front⟩ := request?_eq_some asked
  obtain ⟨otherProgram, otherFront⟩ := request?_eq_some askedOther
  rcases different with programs | ⟨notFirst, notSecond⟩
  · exact programs (program.symm.trans otherProgram)
  · rcases List.prefix_or_prefix_of_prefix front otherFront with shorter | longer
    · exact notFirst shorter
    · exact notSecond longer

theorem request?_invocation (table : ToolTable) (operation : TableOperation) (rule : Rule) :
    table.request? (table.invocation operation rule) = some (operation, rule) := by
  rw [request?, invocation, Invocation.argumentsFor_append]
  exact readArguments_arguments operation rule

end ToolTable

/-- A table whose tool keeps its rules, and the rules that it kept before any call. -/
structure RuleKeeper where
  table : ToolTable
  first : List Rule

namespace RuleKeeper

/-- The rules that are kept after some calls to the tools of a machine. -/
def rules (keeper : RuleKeeper) (calls : List ToolCall) : List Rule :=
  calls.foldl (fun rules call =>
    match keeper.table.request? call.invocation with
    | none => rules
    | some (operation, rule) => operation.edit rule rules) keeper.first

/-- The table as it would be if it was kept in memory. -/
def copy (keeper : RuleKeeper) (machine : Machine) : MemoryTable where
  family := keeper.table.family
  rules := keeper.rules machine.tools.calls

end RuleKeeper

/-- Whatever was called before, the tool of a table answers each request by the rules that it keeps.
What it writes to its error output is up to it. -/
def ToolHost.Keeps (host : ToolHost) (keeper : RuleKeeper) : Prop :=
  ∀ calls invocation operation rule,
    keeper.table.request? invocation = some (operation, rule) →
      ∃ stderr, host.answer calls invocation =
        .ok ⟨.exited (operation.exitCode rule (keeper.rules calls)), stderr⟩

/-- Some calls were made to the tools of some tables. Tables apart from these keep their rules. -/
structure Machine.Spared (keepers : List RuleKeeper) (before after : Machine) : Prop where
  answer : after.tools.answer = before.tools.answer
  rules : ∀ other : RuleKeeper, (∀ keeper ∈ keepers, keeper.table.Apart other.table) →
    other.rules after.tools.calls = other.rules before.tools.calls

namespace Machine.Spared

variable {keepers : List RuleKeeper} {before middle after : Machine}

theorem refl (keepers : List RuleKeeper) (before : Machine) : Spared keepers before before where
  answer := rfl
  rules _ _ := rfl

theorem trans (first : Spared keepers before middle) (second : Spared keepers middle after) :
    Spared keepers before after where
  answer := second.answer.trans first.answer
  rules other apart := (second.rules other apart).trans (first.rules other apart)

theorem more {some all : List RuleKeeper} (spared : Spared some before after)
    (among : ∀ keeper ∈ some, keeper ∈ all) : Spared all before after where
  answer := spared.answer
  rules other apart := spared.rules other fun keeper member => apart keeper (among keeper member)

theorem keeps (spared : Spared keepers before after) {keeper : RuleKeeper}
    (keeps : before.tools.Keeps keeper) : after.tools.Keeps keeper := by
  unfold ToolHost.Keeps
  rw [spared.answer]
  exact keeps

end Machine.Spared

namespace RuleKeeper

variable {keeper : RuleKeeper} {machine : Machine}

/-- A call changes the rules of the table that it is meant for. -/
theorem rules_called (keeper : RuleKeeper) (operation : TableOperation) (rule : Rule)
    (machine : Machine) :
    keeper.rules (machine.called (keeper.table.invocation operation rule)).tools.calls =
      operation.edit rule (keeper.rules machine.tools.calls) := by
  simp only [Machine.called_calls, rules, List.foldl_append, List.foldl_cons, List.foldl_nil,
    ToolTable.request?_invocation]

theorem spared_called (keeper : RuleKeeper) (operation : TableOperation) (rule : Rule)
    (machine : Machine) :
    Machine.Spared [keeper] machine
      (machine.called (keeper.table.invocation operation rule)) where
  answer := rfl
  rules other apart := by
    have apart := apart keeper (List.mem_singleton_self keeper)
    have unasked := apart.request?_eq_none (keeper.table.request?_invocation operation rule)
    simp only [Machine.called_calls, rules, List.foldl_append, List.foldl_cons, List.foldl_nil,
      unasked]

/-- A call to the tool of a table ends as the rules that it keeps say. -/
theorem run_kept (keeps : machine.tools.Keeps keeper) (operation : TableOperation) (rule : Rule) :
    ∃ stderr, keeper.table.run operation rule machine =
      (.ok ⟨.exited (operation.exitCode rule (keeper.rules machine.tools.calls)), stderr⟩,
        machine.called (keeper.table.invocation operation rule)) := by
  obtain ⟨stderr, answered⟩ := keeps machine.tools.calls _ operation rule
    (keeper.table.request?_invocation operation rule)
  refine ⟨stderr, ?_⟩
  rw [ToolTable.run, Attempt.mapError_run, Machine.run_eq]
  change ((machine.tools.answer _ (keeper.table.invocation operation rule)).mapError _, _) = _
  rw [answered]
  rfl

theorem contains_kept (keeps : machine.tools.Keeps keeper) (rule : Rule) :
    RuleTable.contains rule (.tool keeper.table, machine) =
      (.ok (decide (rule ∈ keeper.rules machine.tools.calls)), .tool keeper.table,
        machine.called (keeper.table.invocation .contains rule)) := by
  obtain ⟨stderr, ran⟩ := run_kept keeps .contains rule
  by_cases held : rule ∈ keeper.rules machine.tools.calls <;>
    simp [RuleTable.contains, RuleTable.callTool, ToolTable.contains, ran, held,
      TableOperation.exitCode]

end RuleKeeper

namespace RuleChange

/-- The operation of the call that alters a table. -/
def operation : RuleChange → TableOperation
  | .install => .append
  | .remove => .delete

variable {rule : Rule} {rules : List Rule}

theorem exitCode_of_due {change : RuleChange} (due : change.due (decide (rule ∈ rules)) = true) :
    change.operation.exitCode rule rules = 0 := by
  cases change with
  | install => rfl
  | remove => exact if_pos (of_decide_eq_true due)

end RuleChange

namespace RuleKeeper

variable {keeper : RuleKeeper} {machine : Machine}

/-- A table is altered by one call to its tool. -/
theorem alter_kept {change : RuleChange} {rule : Rule} (keeps : machine.tools.Keeps keeper)
    (due : change.due (decide (rule ∈ keeper.rules machine.tools.calls)) = true) :
    change.alter rule (.tool keeper.table, machine) =
      (.ok (), .tool keeper.table,
        machine.called (keeper.table.invocation change.operation rule)) := by
  obtain ⟨stderr, ran⟩ := run_kept keeps change.operation rule
  rw [RuleChange.exitCode_of_due due] at ran
  have succeeded : ToolOutput.succeeded ⟨.exited 0, stderr⟩ = true := rfl
  have altered : change.alter rule (.tool keeper.table, machine) =
      RuleTable.callTool (keeper.table.change change.operation rule) keeper.table machine := by
    cases change <;> rfl
  rw [altered]
  simp only [RuleTable.callTool, ToolTable.change, Attempt.bind_run, ran, succeeded, ↓reduceIte,
    Attempt.pure_run]

theorem contains_copy (rule : Rule) (machine other : Machine) :
    RuleTable.contains rule (.memory (keeper.copy machine), other) =
      (.ok (decide (rule ∈ keeper.rules machine.tools.calls)), .memory (keeper.copy machine),
        other.record ⟨keeper.table.family, .contains, rule⟩) := rfl

theorem alter_copy {change : RuleChange} {rule : Rule}
    (due : change.due (decide (rule ∈ keeper.rules machine.tools.calls)) = true)
    (other : Machine) :
    change.alter rule (.memory (keeper.copy machine), other) =
      (.ok (), .memory { keeper.copy machine with
          rules := change.operation.edit rule (keeper.rules machine.tools.calls) },
        other.record ⟨keeper.table.family, change.operation, rule⟩) := by
  cases change with
  | install => rfl
  | remove =>
    have held : rule ∈ keeper.rules machine.tools.calls := of_decide_eq_true due
    have deleted : MemoryTable.delete rule (keeper.copy machine) =
        (.ok (), { keeper.copy machine with
          rules := (keeper.rules machine.tools.calls).erase rule }) := if_pos held
    simp only [RuleChange.alter, RuleTable.delete, RuleTable.callMemory, deleted]
    rfl

end RuleKeeper

end PacketDivert
