import PacketDivert.Proofs.Firewall.RuleOrder
import PacketDivert.Proofs.Firewall.RuleKeepers
import Mathlib.Logic.Function.Iterate

namespace PacketDivert

open Iptables (Rule)

/-- A table kept by a tool and its copy, on machines of their own. -/
structure RuleKeeper.Mirrored (keeper : RuleKeeper) (before : Machine)
    (real copied : RuleTable × Machine) : Prop where
  table : real.1 = .tool keeper.table
  copy : copied.1 = .memory (keeper.copy real.2)
  spared : Machine.Spared [keeper] before real.2

namespace RuleKeeper

variable {keeper : RuleKeeper} {machine : Machine}

/-- Asking for a rule changes nothing, so that the copy stays one. -/
theorem copy_asked (keeper : RuleKeeper) (rule : Rule) (machine : Machine) :
    keeper.copy (machine.called (keeper.table.invocation .contains rule)) =
      keeper.copy machine := by
  unfold copy
  rw [rules_called]
  rfl

/-- A table that has to be altered is altered as its copy is. -/
theorem alter_mirrored {change : RuleChange} {rule : Rule} (keeps : machine.tools.Keeps keeper)
    (due : change.due (decide (rule ∈ keeper.rules machine.tools.calls)) = true) (other : Machine) :
    ∃ reached others,
      change.alter rule (.tool keeper.table, machine) = (.ok (), .tool keeper.table, reached) ∧
      change.alter rule (.memory (keeper.copy machine), other) =
        (.ok (), .memory (keeper.copy reached), others) ∧
      Machine.Spared [keeper] machine reached := by
  refine ⟨_, other.record ⟨keeper.table.family, change.operation, rule⟩, alter_kept keeps due, ?_,
    keeper.spared_called change.operation rule machine⟩
  rw [alter_copy due]
  unfold copy
  rw [rules_called]

/-- A rule is dealt with in a table and in its copy by the same calls, after each of which the copy
is one. -/
theorem act_mirrored (change : RuleChange) (rule : Rule) (keeps : machine.tools.Keeps keeper)
    (other : Machine) :
    ∃ reached others,
      change.act rule (.tool keeper.table, machine) = (.ok (), .tool keeper.table, reached) ∧
      change.act rule (.memory (keeper.copy machine), other) =
        (.ok (), .memory (keeper.copy reached), others) ∧
      Machine.Spared [keeper] machine reached ∧
      List.Forall₂ (keeper.Mirrored machine) (change.moments rule (.tool keeper.table, machine))
        (change.moments rule (.memory (keeper.copy machine), other)) := by
  let asked := machine.called (keeper.table.invocation .contains rule)
  let noted := other.record ⟨keeper.table.family, .contains, rule⟩
  have spared : Machine.Spared [keeper] machine asked := keeper.spared_called .contains rule machine
  have copied : keeper.copy machine = keeper.copy asked := (keeper.copy_asked rule machine).symm
  have here : keeper.Mirrored machine (.tool keeper.table, asked)
      (.memory (keeper.copy machine), noted) := ⟨rfl, by rw [copied], spared⟩
  rw [RuleChange.act_run, RuleChange.act_run, RuleChange.moments, RuleChange.moments,
    contains_kept keeps, contains_copy]
  dsimp only
  by_cases due : change.due (decide (rule ∈ keeper.rules machine.tools.calls)) = true
  · have stillDue : change.due (decide (rule ∈ keeper.rules asked.tools.calls)) = true := by
      rwa [show keeper.rules asked.tools.calls = keeper.rules machine.tools.calls from
        keeper.rules_called .contains rule machine]
    obtain ⟨reached, others, altered, alteredCopy, sparedThen⟩ :=
      alter_mirrored (spared.keeps keeps) stillDue noted
    rw [← copied] at alteredCopy
    refine ⟨reached, others, by rw [if_pos due]; exact altered,
      by rw [if_pos due]; exact alteredCopy, spared.trans sparedThen, ?_⟩
    rw [if_pos due, if_pos due]
    refine .cons here (.cons ?_ .nil)
    rw [alteredCopy]
    change keeper.Mirrored machine (change.alter rule (.tool keeper.table, asked)).2 _
    rw [altered]
    exact ⟨rfl, rfl, spared.trans sparedThen⟩
  · refine ⟨asked, noted, by rw [if_neg due], by rw [if_neg due, ← copied], spared, ?_⟩
    rw [if_neg due, if_neg due]
    exact .cons here .nil

end RuleKeeper

/-- The tables of some keepers. -/
def toolTables (keepers : List RuleKeeper) : List RuleTable := keepers.map (.tool ·.table)

/-- The tables of some keepers as they would be if they were kept in memory. -/
def copies (keepers : List RuleKeeper) (machine : Machine) : List RuleTable :=
  keepers.map fun keeper => .memory (keeper.copy machine)

theorem toolTables_cons (keeper : RuleKeeper) (keepers : List RuleKeeper) :
    toolTables (keeper :: keepers) = .tool keeper.table :: toolTables keepers := rfl

theorem copies_cons (keeper : RuleKeeper) (keepers : List RuleKeeper) (machine : Machine) :
    copies (keeper :: keepers) machine =
      .memory (keeper.copy machine) :: copies keepers machine := rfl

section

variable {keeper : RuleKeeper} {keepers : List RuleKeeper} {before after : Machine}

/-- While one table is dealt with, the copies of the others stay as they are. -/
theorem copies_of_spared (spared : Machine.Spared [keeper] before after)
    (apart : ∀ other ∈ keepers, keeper.table.Apart other.table) :
    copies keepers after = copies keepers before := by
  apply List.map_congr_left
  intro other member
  unfold RuleKeeper.copy
  rw [spared.rules other fun found present => List.mem_singleton.mp present ▸ apart other member]

/-- While the others are dealt with, the copy of one table stays as it is. -/
theorem RuleKeeper.copy_of_spared (spared : Machine.Spared keepers before after)
    (apart : ∀ other ∈ keepers, other.table.Apart keeper.table) :
    keeper.copy after = keeper.copy before := by
  unfold RuleKeeper.copy
  rw [spared.rules keeper apart]

/-- What is spared while one table and then the others are dealt with. -/
theorem Machine.Spared.cons {middle : Machine} (first : Spared [keeper] before middle)
    (rest : Spared keepers middle after) : Spared (keeper :: keepers) before after :=
  (first.more fun _ member => List.mem_singleton.mp member ▸ List.mem_cons_self).trans
    (rest.more fun _ member => List.mem_cons_of_mem _ member)

end

/-- Tables kept by tools and their copies, on machines of their own. -/
structure Mirrored (keepers : List RuleKeeper) (before : Machine)
    (real copied : List RuleTable × Machine) : Prop where
  tables : real.1 = toolTables keepers
  copies : copied.1 = copies keepers real.2
  spared : Machine.Spared keepers before real.2

namespace Mirrored

variable {keeper : RuleKeeper} {keepers : List RuleKeeper} {before middle : Machine}

theorem first {real copied : RuleTable × Machine}
    (apart : ∀ other ∈ keepers, keeper.table.Apart other.table)
    (mirrored : keeper.Mirrored before real copied) :
    Mirrored (keeper :: keepers) before (real.1 :: toolTables keepers, real.2)
      (copied.1 :: PacketDivert.copies keepers before, copied.2) where
  tables := by
    rw [mirrored.table]
    rfl
  copies := by
    rw [mirrored.copy, ← copies_of_spared mirrored.spared apart]
    rfl
  spared := mirrored.spared.cons (.refl keepers real.2)

theorem later {real copied : List RuleTable × Machine}
    (apart : ∀ other ∈ keepers, other.table.Apart keeper.table)
    (spared : Machine.Spared [keeper] before middle)
    (mirrored : Mirrored keepers middle real copied) :
    Mirrored (keeper :: keepers) before (.tool keeper.table :: real.1, real.2)
      (.memory (keeper.copy middle) :: copied.1, copied.2) where
  tables := by
    rw [mirrored.tables]
    rfl
  copies := by
    rw [mirrored.copies, ← RuleKeeper.copy_of_spared mirrored.spared apart]
    rfl
  spared := spared.cons mirrored.spared

theorem since {real copied : List RuleTable × Machine}
    (spared : Machine.Spared keepers before middle)
    (mirrored : Mirrored keepers middle real copied) :
    Mirrored keepers before real copied :=
  { mirrored with spared := spared.trans mirrored.spared }

end Mirrored

namespace RuleChange

variable {keepers : List RuleKeeper} {machine : Machine}

/-- A rule is dealt with in some tables and in their copies by the same calls, after each of which
the copies are such. -/
theorem round_mirrored (change : RuleChange) (rule : Rule)
    (apart : keepers.Pairwise (·.table.Apart ·.table))
    (keeps : ∀ keeper ∈ keepers, machine.tools.Keeps keeper) (other : Machine) :
    ∃ reached others,
      RuleTable.forEach (change.act rule) (toolTables keepers) machine =
        (.ok (), toolTables keepers, reached) ∧
      RuleTable.forEach (change.act rule) (copies keepers machine) other =
        (.ok (), copies keepers reached, others) ∧
      Machine.Spared keepers machine reached ∧
      List.Forall₂ (Mirrored keepers machine)
        (change.roundMoments rule (toolTables keepers) machine)
        (change.roundMoments rule (copies keepers machine) other) := by
  induction keepers generalizing machine other with
  | nil => exact ⟨machine, other, rfl, rfl, .refl [] machine, .nil⟩
  | cons keeper keepers inductionHypothesis =>
    obtain ⟨apartHead, apartRest⟩ := List.pairwise_cons.mp apart
    obtain ⟨keepsHead, keepsRest⟩ := List.forall_mem_cons.mp keeps
    obtain ⟨middle, between, acted, actedCopy, spared, meets⟩ :=
      RuleKeeper.act_mirrored change rule keepsHead other
    obtain ⟨reached, others, round, roundCopy, sparedThen, meetsThen⟩ :=
      inductionHypothesis apartRest
        (fun other member => spared.keeps (keepsRest other member)) between
    have waiting : copies keepers middle = copies keepers machine :=
      copies_of_spared spared apartHead
    have behind : ∀ other ∈ keepers, other.table.Apart keeper.table :=
      fun other member => (apartHead other member).symm
    have left : keeper.copy reached = keeper.copy middle :=
      RuleKeeper.copy_of_spared sparedThen behind
    rw [waiting] at roundCopy meetsThen
    simp only [toolTables_cons, copies_cons]
    refine ⟨reached, others, ?_, ?_, spared.cons sparedThen, ?_⟩
    · simp only [RuleTable.forEach, acted, round]
    · simp only [RuleTable.forEach, actedCopy, roundCopy, left]
    · rw [roundMoments, roundMoments, acted, actedCopy]
      dsimp only
      refine List.rel_append ?_ ?_
      · rw [List.forall₂_map_left_iff, List.forall₂_map_right_iff]
        exact meets.imp fun _ _ mirrored => Mirrored.first apartHead mirrored
      · rw [List.forall₂_map_left_iff, List.forall₂_map_right_iff]
        exact meetsThen.imp fun _ _ mirrored => mirrored.later behind spared

/-- So is one rule after the other. -/
theorem pass_mirrored (change : RuleChange) (rules : List Rule)
    (apart : keepers.Pairwise (·.table.Apart ·.table))
    (keeps : ∀ keeper ∈ keepers, machine.tools.Keeps keeper) (other : Machine) :
    ∃ reached others,
      LegacyBackend.forRules change.act rules (toolTables keepers, machine) =
        (.ok (), toolTables keepers, reached) ∧
      LegacyBackend.forRules change.act rules (copies keepers machine, other) =
        (.ok (), copies keepers reached, others) ∧
      Machine.Spared keepers machine reached ∧
      List.Forall₂ (Mirrored keepers machine)
        (change.passMoments rules (toolTables keepers, machine))
        (change.passMoments rules (copies keepers machine, other)) := by
  induction rules generalizing machine other with
  | nil => exact ⟨machine, other, rfl, rfl, .refl keepers machine, .nil⟩
  | cons rule rules inductionHypothesis =>
    obtain ⟨middle, between, round, roundCopy, spared, meets⟩ :=
      change.round_mirrored rule apart keeps other
    obtain ⟨reached, others, pass, passCopy, sparedThen, meetsThen⟩ :=
      inductionHypothesis (fun keeper member => spared.keeps (keeps keeper member)) between
    refine ⟨reached, others, ?_, ?_, spared.trans sparedThen, ?_⟩
    · rw [LegacyBackend.forRules_cons, round]
      exact pass
    · rw [LegacyBackend.forRules_cons, roundCopy]
      exact passCopy
    · rw [passMoments, passMoments, round, roundCopy]
      exact List.rel_append meets (meetsThen.imp fun _ _ mirrored => mirrored.since spared)

end RuleChange

namespace LegacyBackend

/-- What comes of the uses in a run, one after the other. -/
def results : List (Policy × BackendUse) → LegacyBackend × Machine → List (Except Error Unit)
  | [], _ => []
  | (policy, use) :: uses, state =>
    (use.perform policy state).1 :: results uses (use.perform policy state).2

variable {keepers : List RuleKeeper} {machine : Machine}

/-- Installs and removals of any policy come to the same in tables and in their copies. -/
theorem use_mirrored (change : RuleChange) (policy : Policy) (params : DivertParams)
    (apart : keepers.Pairwise (·.table.Apart ·.table))
    (keeps : ∀ keeper ∈ keepers, machine.tools.Keeps keeper) (other : Machine) :
    ∃ result reached others,
      change.use.perform policy (⟨toolTables keepers, params⟩, machine) =
        (result, ⟨toolTables keepers, params⟩, reached) ∧
      change.use.perform policy (⟨copies keepers machine, params⟩, other) =
        (result, ⟨copies keepers reached, params⟩, others) ∧
      Machine.Spared keepers machine reached ∧
      List.Forall₂ (Mirrored keepers machine)
        (change.use.moments policy (⟨toolTables keepers, params⟩, machine))
        (change.use.moments policy (⟨copies keepers machine, params⟩, other)) := by
  have met (state : LegacyBackend × Machine) : change.use.moments policy state =
      change.passMoments (Iptables.rulesOf policy state.1.params) (state.1.tables, state.2) := by
    cases change <;> rfl
  simp only [RuleChange.perform_use, met]
  cases listed : Iptables.divertRules policy params with
  | error fault =>
    refine ⟨.error fault, machine, other,
      by simp only [apply, listed], by simp only [apply, listed],
      .refl keepers machine, ?_⟩
    rw [Iptables.rulesOf, listed]
    exact .nil
  | ok rules =>
    obtain ⟨reached, others, pass, passCopy, spared, meets⟩ :=
      change.pass_mirrored rules apart keeps other
    refine ⟨.ok (), reached, others, by simp only [apply, listed, pass],
      by simp only [apply, listed, passCopy], spared, ?_⟩
    rw [Iptables.rulesOf_eq listed]
    exact meets

theorem run_mirrored (changes : List (Policy × RuleChange)) (params : DivertParams)
    (apart : keepers.Pairwise (·.table.Apart ·.table))
    (keeps : ∀ keeper ∈ keepers, machine.tools.Keeps keeper) (other : Machine) :
    let uses := changes.map fun (policy, change) => (policy, change.use)
    let real := (LegacyBackend.mk (toolTables keepers) params, machine)
    let copied := (LegacyBackend.mk (copies keepers machine) params, other)
    results uses real = results uses copied ∧
      List.Forall₂ (Mirrored keepers machine) (moments uses real) (moments uses copied) := by
  induction changes generalizing machine other with
  | nil => exact ⟨rfl, .cons ⟨rfl, rfl, .refl keepers machine⟩ .nil⟩
  | cons entry changes inductionHypothesis =>
    obtain ⟨policy, change⟩ := entry
    obtain ⟨result, reached, others, performed, performedCopy, spared, meets⟩ :=
      use_mirrored change policy params apart keeps other
    obtain ⟨sameResults, meetsThen⟩ :=
      inductionHypothesis (fun keeper member => spared.keeps (keeps keeper member)) others
    dsimp only
    rw [List.map_cons]
    refine ⟨?_, ?_⟩
    · simp only [results, performed, performedCopy, sameResults]
    · simp only [moments, performed, performedCopy]
      refine List.rel_append (.cons ⟨rfl, rfl, .refl keepers machine⟩ meets) ?_
      exact meetsThen.imp fun _ _ mirrored => mirrored.since spared

end LegacyBackend

/-- The calls that a table, or a reference to one, brings of its own. Putting a rule in place
once and taking it out if it is there are made of these, for a table and anew for each reference
to it. -/
structure TableCalls where
  contains : Rule → Attempt Error (RuleTable × Machine) Bool
  append : Rule → Attempt Error (RuleTable × Machine) Unit
  delete : Rule → Attempt Error (RuleTable × Machine) Unit

namespace TableCalls

/-- The calls of the table itself. -/
def direct : TableCalls where
  contains := RuleTable.contains
  append := RuleTable.append
  delete := RuleTable.delete

/-- A shared reference hands each call on to what it refers to. One that answered a check of its
own, or took one call for another, would have rules put in place twice or left behind. -/
def shared (calls : TableCalls) : TableCalls where
  contains rule := calls.contains rule
  append rule := calls.append rule
  delete rule := calls.delete rule

/-- What is done to one rule. The check in front of a change goes the same way as the change. -/
def act (calls : TableCalls) (change : RuleChange) (rule : Rule) :
    Attempt Error (RuleTable × Machine) Unit :=
  match change with
  | .install => do if ← calls.contains rule then pure () else calls.append rule
  | .remove => do if ← calls.contains rule then calls.delete rule else pure ()

/-- Each table may stand behind any number of references. -/
def actBehind (depth : RuleTable → Nat) (change : RuleChange) (rule : Rule) :
    Attempt Error (RuleTable × Machine) Unit := fun (table, machine) =>
  (shared^[depth table] direct).act change rule (table, machine)

theorem actBehind_eq (depth : RuleTable → Nat) (change : RuleChange) :
    actBehind depth change = change.act := by
  have reached (number : Nat) : shared^[number] direct = direct :=
    Function.iterate_fixed rfl number
  funext rule state
  simp only [actBehind, reached]
  cases change <;> rfl

end TableCalls

/-- Where the tools of some tables keep rules, each its own, every run of installs and removals has
the same results as on copies of the tables in memory. At all times, also in the middle of an
install, the tools keep the rules that the copies hold. Tables behind shared references are no
different. -/
theorem tool_tables_mirror_memory {keepers : List RuleKeeper}
    (apart : keepers.Pairwise (·.table.Apart ·.table)) {machine : Machine}
    (keeps : ∀ keeper ∈ keepers, machine.tools.Keeps keeper) (params : DivertParams)
    (changes : List (Policy × RuleChange)) (other : Machine) :
    let uses := changes.map fun (policy, change) => (policy, change.use)
    let real := (LegacyBackend.mk (toolTables keepers) params, machine)
    let copied := (LegacyBackend.mk (copies keepers machine) params, other)
    LegacyBackend.results uses real = LegacyBackend.results uses copied ∧
      List.Forall₂ (fun now meanwhile =>
          meanwhile.1.map RuleTable.held = keepers.map (·.rules now.2.tools.calls))
        (LegacyBackend.moments uses real) (LegacyBackend.moments uses copied) ∧
      ∀ depth (change : RuleChange) policy,
        LegacyBackend.apply (TableCalls.actBehind depth change) policy =
          change.use.perform policy := by
  intro uses real copied
  obtain ⟨sameResults, mirrored⟩ :=
    LegacyBackend.run_mirrored changes params apart keeps other
  refine ⟨sameResults, mirrored.imp fun now meanwhile mirrors => ?_, fun depth change policy => ?_⟩
  · rw [mirrors.copies, copies, List.map_map]
    rfl
  · rw [TableCalls.actBehind_eq]
    cases change <;> rfl

/-- Tools that keep rules for some tables, and can do nothing else. -/
def ToolHost.keeping (keepers : List RuleKeeper) : ToolHost where
  answer calls invocation :=
    match keepers.findSome? fun keeper =>
      (keeper.table.request? invocation).map fun (operation, rule) =>
        operation.exitCode rule (keeper.rules calls) with
    | some code => .ok { status := .exited code }
    | none => .error .notFound

theorem ToolHost.keeping_keeps {keepers : List RuleKeeper}
    (apart : keepers.Pairwise (·.table.Apart ·.table)) :
    ∀ keeper ∈ keepers, (ToolHost.keeping keepers).Keeps keeper := by
  intro keeper member calls invocation operation rule asked
  have found : keepers.findSome? (fun keeper =>
      (keeper.table.request? invocation).map fun (operation, rule) =>
        operation.exitCode rule (keeper.rules calls)) =
      some (operation.exitCode rule (keeper.rules calls)) := by
    induction keepers with
    | nil => exact absurd member List.not_mem_nil
    | cons head keepers inductionHypothesis =>
      obtain ⟨apartHead, apartRest⟩ := List.pairwise_cons.mp apart
      rcases List.mem_cons.mp member with rfl | later
      · simp [asked]
      · have unasked := (apartHead keeper later).symm.request?_eq_none asked
        rw [List.findSome?_cons, unasked]
        exact inductionHypothesis apartRest later
  refine ⟨[], ?_⟩
  simp only [keeping, found]

/-- Tables of two address families, whose tools are started by a wrapper. -/
def wrappedTables : List RuleKeeper := [
  ⟨⟨"sudo", "ipv4", ["iptables"]⟩, [⟨"filter", "INPUT", ["-j", "ACCEPT"]⟩]⟩,
  ⟨⟨"sudo", "ipv6", ["ip6tables"]⟩, []⟩]

theorem wrappedTables_apart : wrappedTables.Pairwise (·.table.Apart ·.table) :=
  List.pairwise_pair.mpr (.of_different (by decide))

/-- The policy is changed before the rules of the one in force are removed. -/
def changedPolicy : List (Policy × RuleChange) :=
  [(⟨false, true⟩, .install), (⟨true, false⟩, .install), (⟨false, true⟩, .remove)]

theorem tool_tables_mirror_memory_changed_policy :
    let uses := changedPolicy.map fun (policy, change) => (policy, change.use)
    let machine : Machine := ⟨.keeping wrappedTables, []⟩
    let real := (LegacyBackend.mk (toolTables wrappedTables) .usual, machine)
    let copied := (LegacyBackend.mk (copies wrappedTables machine) .usual, machine)
    wrappedTables.Pairwise (·.table.Apart ·.table) ∧
      (∀ keeper ∈ wrappedTables, machine.tools.Keeps keeper) ∧
      (LegacyBackend.results uses copied).map (·.isOk) = [true, true, true] ∧
      LegacyBackend.results uses real = LegacyBackend.results uses copied ∧
      List.Forall₂ (fun now meanwhile =>
          meanwhile.1.map RuleTable.held = wrappedTables.map (·.rules now.2.tools.calls))
        (LegacyBackend.moments uses real) (LegacyBackend.moments uses copied) := by
  let machine : Machine := ⟨.keeping wrappedTables, []⟩
  have keeps : ∀ keeper ∈ wrappedTables, machine.tools.Keeps keeper :=
    ToolHost.keeping_keeps wrappedTables_apart
  obtain ⟨sameResults, sameRules, _⟩ :=
    tool_tables_mirror_memory wrappedTables_apart keeps .usual changedPolicy machine
  exact ⟨wrappedTables_apart, keeps, by decide +kernel, sameResults, sameRules⟩

end PacketDivert
