import PacketDivert.Proofs.Firewall.RuleOrder
import PacketDivert.Proofs.Firewall.ToolTables

namespace PacketDivert

open Iptables (Rule)

/-- What is read off two related lists is the same if it is the same of each pair. -/
theorem map_eq_of_forall₂ {α β γ : Type} {read : α → γ} {readOther : β → γ} {firsts : List α}
    {seconds : List β}
    (same : List.Forall₂ (fun first second => readOther second = read first) firsts seconds) :
    seconds.map readOther = firsts.map read := by
  rw [eq_comm, ← List.forall₂_eq_eq_eq, List.forall₂_map_left_iff, List.forall₂_map_right_iff]
  exact same.imp fun _ _ => Eq.symm

/-- A machine whose journal has got some more calls. -/
def Machine.recordAll (calls : List TableCall) (machine : Machine) : Machine :=
  { machine with journal := machine.journal ++ calls }

@[simp] theorem Machine.recordAll_nil (machine : Machine) : machine.recordAll [] = machine := by
  simp [recordAll]

@[simp] theorem Machine.recordAll_recordAll (calls more : List TableCall) (machine : Machine) :
    (machine.recordAll calls).recordAll more = machine.recordAll (calls ++ more) := by
  simp [recordAll]

theorem mem_appendNew_of_ne {rule other : Rule} (different : other ≠ rule) {contents : List Rule} :
    other ∈ appendNew rule contents ↔ other ∈ contents := by
  simp [mem_appendNew, different]

/-- What an install puts behind the contents of a table is taken out again by a removal, which so
comes to the same as if nothing had been put there. -/
theorem append_new_diff {rules : List Rule} (distinct : rules.Nodup) (contents : List Rule) :
    (contents ++ rules.filter (· ∉ contents)).diff rules = contents.diff rules := by
  induction rules generalizing contents with
  | nil => simp
  | cons rule rules inductionHypothesis =>
    obtain ⟨fresh, distinctRest⟩ := List.nodup_cons.mp distinct
    have sameRest : rules.filter (· ∉ contents.erase rule) = rules.filter (· ∉ contents) := by
      apply List.filter_congr
      intro other member
      have different : other ≠ rule := fun same => fresh (same ▸ member)
      simp [List.mem_erase_of_ne different]
    have erased : (contents ++ (rule :: rules).filter (· ∉ contents)).erase rule =
        contents.erase rule ++ rules.filter (· ∉ contents.erase rule) := by
      rw [sameRest]
      by_cases held : rule ∈ contents
      · rw [List.erase_append_left _ held]
        simp [held]
      · rw [List.erase_append_right _ held, List.erase_of_not_mem held]
        simp [held]
    rw [List.diff_cons, List.diff_cons, erased]
    exact inductionHypothesis distinctRest _

/-- Only rules that a table holds are taken out of it. -/
theorem diff_filter_of_forall_mem {contents : List Rule} {chosen : Rule → Bool}
    (held : ∀ rule ∈ contents, chosen rule = true) (rules : List Rule) :
    contents.diff (rules.filter chosen) = contents.diff rules := by
  induction rules generalizing contents with
  | nil => rfl
  | cons rule rules inductionHypothesis =>
    have heldRest : ∀ other ∈ contents.erase rule, chosen other = true :=
      fun other member => held other (List.mem_of_mem_erase member)
    rw [List.diff_cons, ← inductionHypothesis heldRest]
    by_cases kept : chosen rule = true
    · rw [List.filter_cons_of_pos kept, List.diff_cons]
    · have missing : rule ∉ contents := fun member => kept (held rule member)
      rw [List.filter_cons_of_neg kept, List.erase_of_not_mem missing]

namespace RuleChange

theorem changeAll_install {rules : List Rule} (distinct : rules.Nodup) :
    changeAll install.edit rules = fun contents => contents ++ rules.filter (· ∉ contents) :=
  funext (changeAll_appendNew distinct)

theorem changeAll_remove (rules : List Rule) :
    changeAll remove.edit rules = fun contents => contents.diff rules :=
  funext (changeAll_erase rules)

/-- The calls that a rule takes in a table kept in memory: one to see whether the table holds it,
and one to alter the table if that has to be. -/
def callsFor (change : RuleChange) (rule : Rule) (table : MemoryTable) : List TableCall :=
  ⟨table.family, .contains, rule⟩ ::
    if change.due (decide (rule ∈ table.rules)) then [⟨table.family, change.operation, rule⟩]
    else []

/-- The calls that some rules take in some tables, each rule in all tables before the next rule. -/
def allCalls (change : RuleChange) (rules : List Rule) (tables : List MemoryTable) :
    List TableCall :=
  rules.flatMap fun rule => tables.flatMap (change.callsFor rule)

/-- A table in which a change was made. Where no call is refused, none will be. -/
structure Made (change : List Rule → List Rule) (before after : MemoryTable) : Prop where
  family : after.family = before.family
  rules : after.rules = change before.rules
  unlimited : before.limits = {} → after.limits = {}

theorem mem_edit_of_ne (change : RuleChange) {rule other : Rule} (different : other ≠ rule)
    {contents : List Rule} : other ∈ change.edit rule contents ↔ other ∈ contents := by
  cases change with
  | install => exact mem_appendNew_of_ne different
  | remove => exact List.mem_erase_of_ne different

/-- The calls for a rule are the same whether another rule was dealt with before or not. -/
theorem callsFor_of_made {change : RuleChange} {rule other : Rule} (different : other ≠ rule)
    {before after : MemoryTable} (made : Made (change.edit rule) before after) :
    change.callsFor other after = change.callsFor other before := by
  simp [callsFor, made.family, made.rules, change.mem_edit_of_ne different]

end RuleChange

namespace MemoryTable

theorem enter_unlimited_or (operation : TableOperation) (table : MemoryTable) :
    (∃ limits, (table.limits = {} → limits = {}) ∧
        enter operation table = (.ok (), { table with limits })) ∨
      table.limits ≠ {} ∧ enter operation table = (.error (refusal operation), table) := by
  unfold enter
  cases spent : table.limits.spend operation with
  | none =>
    refine .inr ⟨fun unlimited => ?_, rfl⟩
    rw [unlimited] at spent
    cases operation <;> exact nomatch spent
  | some limits =>
    refine .inl ⟨limits, fun unlimited => ?_, rfl⟩
    rw [unlimited] at spent
    cases operation <;> exact (Option.some.inj spent).symm

end MemoryTable

namespace RuleChange

/-- A table that has to be altered is altered, unless the call is refused. -/
theorem alter_made (change : RuleChange) {rule : Rule} {table : MemoryTable}
    (due : change.due (decide (rule ∈ table.rules)) = true) (machine : Machine) :
    (∃ after, Made (change.edit rule) table after ∧
        change.alter rule (.memory table, machine) =
          (.ok (), .memory after, machine.recordAll [⟨table.family, change.operation, rule⟩])) ∨
      table.limits ≠ {} ∧ (change.alter rule (.memory table, machine)).1 ≠ .ok () := by
  cases change with
  | install =>
    have missing : rule ∉ table.rules := by simpa [RuleChange.due] using due
    rcases MemoryTable.enter_unlimited_or .append table with
      ⟨limits, free, entered⟩ | ⟨limited, refused⟩
    · refine .inl ⟨{ table with rules := table.rules ++ [rule], limits }, ⟨rfl, ?_, free⟩, ?_⟩
      · simp [edit, appendNew, missing]
      · simp only [alter, RuleTable.append, RuleTable.callMemory, MemoryTable.append, bind, entered]
        rfl
    · refine .inr ⟨limited, ?_⟩
      simp only [alter, RuleTable.append, RuleTable.callMemory, MemoryTable.append, bind, refused]
      intro succeeded
      cases succeeded
  | remove =>
    have held : rule ∈ table.rules := of_decide_eq_true due
    rcases MemoryTable.enter_unlimited_or .delete table with
      ⟨limits, free, entered⟩ | ⟨limited, refused⟩
    · refine .inl ⟨{ table with rules := table.rules.erase rule, limits }, ⟨rfl, rfl, free⟩, ?_⟩
      simp only [alter, RuleTable.delete, RuleTable.callMemory, MemoryTable.delete, bind, entered,
        held, ↓reduceIte]
      rfl
    · refine .inr ⟨limited, ?_⟩
      simp only [alter, RuleTable.delete, RuleTable.callMemory, MemoryTable.delete, bind, refused]
      intro succeeded
      cases succeeded

theorem edit_of_not_due {change : RuleChange} {rule : Rule} {contents : List Rule}
    (settled : change.due (decide (rule ∈ contents)) = false) :
    change.edit rule contents = contents := by
  cases change with
  | install =>
    have held : rule ∈ contents := by simpa [RuleChange.due] using settled
    exact if_pos held
  | remove => exact List.erase_of_not_mem (of_decide_eq_false settled)

/-- A rule is dealt with in a table by the calls that it takes, unless one of them is refused. -/
theorem act_made (change : RuleChange) (rule : Rule) (table : MemoryTable) (machine : Machine) :
    (∃ after, Made (change.edit rule) table after ∧
        change.act rule (.memory table, machine) =
          (.ok (), .memory after, machine.recordAll (change.callsFor rule table))) ∨
      table.limits ≠ {} ∧ (change.act rule (.memory table, machine)).1 ≠ .ok () := by
  rw [act_run]
  rcases MemoryTable.enter_unlimited_or .contains table with
    ⟨limits, free, entered⟩ | ⟨limited, refused⟩
  · have asked : RuleTable.contains rule (.memory table, machine) =
        (.ok (decide (rule ∈ table.rules)), .memory { table with limits },
          machine.recordAll [⟨table.family, .contains, rule⟩]) := by
      simp only [RuleTable.contains, RuleTable.callMemory, MemoryTable.contains, bind, entered]
      rfl
    rw [asked]
    dsimp only
    by_cases due : change.due (decide (rule ∈ table.rules)) = true
    · rw [if_pos due]
      rcases @alter_made change rule { table with limits } due
        (machine.recordAll [⟨table.family, .contains, rule⟩]) with ⟨after, made, altered⟩ | refused
      · refine .inl ⟨after, ⟨made.family, made.rules, made.unlimited ∘ free⟩, ?_⟩
        rw [altered, Machine.recordAll_recordAll, callsFor, if_pos due]
        rfl
      · exact .inr ⟨fun unlimited => refused.1 (free unlimited), refused.2⟩
    · rw [if_neg due]
      have settled := edit_of_not_due (Bool.not_eq_true _ ▸ due)
      refine .inl ⟨{ table with limits }, ⟨rfl, settled.symm, free⟩, ?_⟩
      rw [callsFor, if_neg due]
  · refine .inr ⟨limited, ?_⟩
    simp only [RuleTable.contains, RuleTable.callMemory, MemoryTable.contains, bind, refused]
    intro succeeded
    cases succeeded

/-- So it is in one table after the other. -/
theorem round_made (change : RuleChange) (rule : Rule) (tables : List MemoryTable)
    (machine : Machine) :
    (∃ after, List.Forall₂ (Made (change.edit rule)) tables after ∧
        RuleTable.forEach (change.act rule) (tables.map .memory) machine =
          (.ok (), after.map .memory, machine.recordAll (tables.flatMap (change.callsFor rule)))) ∨
      ¬(∀ table ∈ tables, table.limits = {}) ∧
        (RuleTable.forEach (change.act rule) (tables.map .memory) machine).1 ≠ .ok () := by
  induction tables generalizing machine with
  | nil => exact .inl ⟨[], .nil, by simp [RuleTable.forEach]⟩
  | cons table tables inductionHypothesis =>
    rw [List.map_cons, RuleTable.forEach]
    rcases change.act_made rule table machine with ⟨head, made, acted⟩ | ⟨limited, failed⟩
    · rw [acted]
      dsimp only
      rcases inductionHypothesis (machine.recordAll (change.callsFor rule table)) with
        ⟨after, madeRest, round⟩ | ⟨limited, failed⟩
      · refine .inl ⟨head :: after, .cons made madeRest, ?_⟩
        rw [round, Machine.recordAll_recordAll]
        rfl
      · exact .inr ⟨fun unlimited => limited (List.forall_mem_cons.mp unlimited).2, failed⟩
    · refine .inr ⟨fun unlimited => limited (List.forall_mem_cons.mp unlimited).1, ?_⟩
      rcases acted : change.act rule (.memory table, machine) with ⟨fault | done, reached⟩
      · intro succeeded
        cases succeeded
      · rw [acted] at failed
        exact absurd rfl failed

/-- A round for one rule leaves the calls that another one takes as they are. -/
theorem flatMap_callsFor {change : RuleChange} {rule other : Rule} (different : other ≠ rule)
    {before after : List MemoryTable} (made : List.Forall₂ (Made (change.edit rule)) before after) :
    after.flatMap (change.callsFor other) = before.flatMap (change.callsFor other) := by
  induction made with
  | nil => rfl
  | cons first _ inductionHypothesis =>
    rw [List.flatMap_cons, List.flatMap_cons, inductionHypothesis, callsFor_of_made different first]

/-- And so it is for one rule after the other. No rule is dealt with twice, so that each takes the
calls that it would take at the start. -/
theorem pass_made (change : RuleChange) {rules : List Rule} (distinct : rules.Nodup)
    (tables : List MemoryTable) (machine : Machine) :
    (∃ after, List.Forall₂ (Made (changeAll change.edit rules)) tables after ∧
        LegacyBackend.forRules change.act rules (tables.map .memory, machine) =
          (.ok (), after.map .memory, machine.recordAll (change.allCalls rules tables))) ∨
      ¬(∀ table ∈ tables, table.limits = {}) ∧
        (LegacyBackend.forRules change.act rules (tables.map .memory, machine)).1 ≠ .ok () := by
  induction rules generalizing tables machine with
  | nil =>
    refine .inl ⟨tables, List.forall₂_same.mpr fun _ _ => ⟨rfl, rfl, id⟩, ?_⟩
    simp [LegacyBackend.forRules, allCalls]
  | cons rule rules inductionHypothesis =>
    obtain ⟨fresh, distinctRest⟩ := List.nodup_cons.mp distinct
    rw [LegacyBackend.forRules_cons]
    rcases change.round_made rule tables machine with ⟨middle, made, round⟩ | ⟨limited, failed⟩
    · rw [round]
      dsimp only
      rcases inductionHypothesis distinctRest middle
          (machine.recordAll (tables.flatMap (change.callsFor rule))) with
        ⟨after, madeRest, pass⟩ | ⟨limited, failed⟩
      · have sameCalls : change.allCalls rules middle = change.allCalls rules tables := by
          apply List.flatMap_congr
          intro other member
          have different : other ≠ rule := fun same => fresh (same ▸ member)
          exact flatMap_callsFor different made
        refine .inl ⟨after, forall₂_compose ?_ made madeRest, ?_⟩
        · intro before between after first rest
          exact ⟨rest.family.trans first.family, by rw [rest.rules, first.rules, changeAll_cons],
            rest.unlimited ∘ first.unlimited⟩
        · rw [pass, Machine.recordAll_recordAll, sameCalls]
          rfl
      · refine .inr ⟨fun unlimited => limited ?_, failed⟩
        exact forall₂_all (fun _ _ made => made.unlimited) made unlimited
    · refine .inr ⟨limited, ?_⟩
      rcases round : RuleTable.forEach (change.act rule) (tables.map .memory) machine with
        ⟨fault | done, reached⟩
      · intro succeeded
        cases succeeded
      · rw [round] at failed
        exact absurd rfl failed

/-- Where a table has to be altered for no rule, it is only asked for them. -/
theorem allCalls_of_not_due {change : RuleChange} {rules : List Rule} {tables : List MemoryTable}
    (settled : ∀ table ∈ tables, ∀ rule ∈ rules, change.due (decide (rule ∈ table.rules)) = false) :
    change.allCalls rules tables =
      rules.flatMap fun rule => tables.map fun table => ⟨table.family, .contains, rule⟩ := by
  apply List.flatMap_congr
  intro rule member
  rw [List.map_eq_flatMap]
  apply List.flatMap_congr
  intro table present
  simp [callsFor, settled table present rule member]

end RuleChange

namespace LegacyBackend

theorem perform_made {policy : Policy} {params : DivertParams} {rules : List Rule}
    (listed : Iptables.divertRules policy params = .ok rules) (change : RuleChange)
    (tables : List MemoryTable) (machine : Machine) :
    (∃ after, List.Forall₂ (RuleChange.Made (changeAll change.edit rules)) tables after ∧
        change.use.perform policy (inMemory tables params, machine) =
          (.ok (), inMemory after params, machine.recordAll (change.allCalls rules tables))) ∨
      ¬(∀ table ∈ tables, table.limits = {}) ∧
        (change.use.perform policy (inMemory tables params, machine)).1 ≠ .ok () := by
  simp only [RuleChange.perform_use, apply, inMemory, listed]
  rcases change.pass_made (Iptables.nodup_divertRules listed) tables machine with
    ⟨after, made, pass⟩ | failed
  · exact .inl ⟨after, made, by rw [pass]⟩
  · exact .inr failed

/-- Where an install or a removal succeeds, no call was refused. -/
theorem made_of_ok {policy : Policy} {params : DivertParams} {rules : List Rule}
    (listed : Iptables.divertRules policy params = .ok rules) (change : RuleChange)
    {tables : List MemoryTable} {machine : Machine} {after : LegacyBackend × Machine}
    (succeeded : change.use.perform policy (inMemory tables params, machine) = (.ok (), after)) :
    ∃ held, List.Forall₂ (RuleChange.Made (changeAll change.edit rules)) tables held ∧
      after = (inMemory held params, machine.recordAll (change.allCalls rules tables)) := by
  rcases perform_made listed change tables machine with ⟨held, made, performed⟩ | ⟨_, failed⟩
  · rw [performed] at succeeded
    exact ⟨held, made, (Prod.mk.inj succeeded).2.symm⟩
  · rw [succeeded] at failed
    exact absurd rfl failed

theorem families_of_made {α : Type} {change : List Rule → List Rule}
    {tables held : List MemoryTable}
    (made : List.Forall₂ (RuleChange.Made change) tables held) (note : String → α) :
    held.map (fun table => note table.family) = tables.map fun table => note table.family := by
  apply map_eq_of_forall₂
  exact made.imp fun _ _ first => congrArg note first.family

theorem contents_of_made {change : List Rule → List Rule} {tables held : List MemoryTable}
    (made : List.Forall₂ (RuleChange.Made change) tables held) (params : DivertParams) :
    (inMemory held params).contents = tables.map fun table => change table.rules := by
  rw [contents_inMemory]
  apply map_eq_of_forall₂
  exact made.imp fun _ _ first => first.rules

/-- An install in tables that hold all rules changes nothing and only asks for the rules. -/
theorem install_of_complete {policy : Policy} {params : DivertParams} {rules : List Rule}
    (listed : Iptables.divertRules policy params = .ok rules) {tables : List MemoryTable}
    (complete : ∀ table ∈ tables, ∀ rule ∈ rules, rule ∈ table.rules) {machine : Machine}
    {after : LegacyBackend × Machine}
    (installed : install policy (inMemory tables params, machine) = (.ok (), after)) :
    after.1.contents = (inMemory tables params).contents ∧
      after.2 = machine.recordAll (rules.flatMap fun rule =>
        tables.map fun table => ⟨table.family, .contains, rule⟩) := by
  obtain ⟨held, made, rfl⟩ := made_of_ok listed .install installed
  constructor
  · rw [contents_of_made made, contents_inMemory]
    apply List.map_congr_left
    intro table present
    have noneNew : rules.filter (· ∉ table.rules) = [] := by
      simpa [List.filter_eq_nil_iff] using complete table present
    rw [RuleChange.changeAll_install (Iptables.nodup_divertRules listed)]
    dsimp only
    rw [noneNew, List.append_nil]
  · rw [RuleChange.allCalls_of_not_due]
    intro table present rule member
    simp [RuleChange.due, complete table present rule member]

/-- A removal takes out all that an install has put in, and the rules that a table held before. -/
theorem remove_of_installed {policy : Policy} {params : DivertParams} {rules : List Rule}
    (listed : Iptables.divertRules policy params = .ok rules) {tables held : List MemoryTable}
    (made : List.Forall₂ (RuleChange.Made fun contents => contents ++ rules.filter (· ∉ contents))
      tables held) {machine : Machine} {last : LegacyBackend × Machine}
    (removed : remove policy (inMemory held params, machine) = (.ok (), last)) :
    List.Forall₂ (fun table left =>
        left = table.rules.diff (rules.filter (· ∈ table.rules)) ∧
        ((∀ rule ∈ rules, rule ∉ table.rules) → left = table.rules))
      tables last.1.contents := by
  obtain ⟨left, madeThen, rfl⟩ := made_of_ok listed .remove removed
  rw [RuleChange.changeAll_remove] at madeThen
  rw [contents_inMemory, List.forall₂_map_right_iff]
  refine forall₂_compose (fun before between after first rest => ?_) made madeThen
  have taken : after.rules = before.rules.diff (rules.filter (· ∈ before.rules)) := by
    rw [rest.rules, first.rules, diff_filter_of_forall_mem (by simp)]
    exact append_new_diff (Iptables.nodup_divertRules listed) before.rules
  refine ⟨taken, fun none => ?_⟩
  rw [taken, List.filter_eq_nil_iff.mpr (by simpa using none), List.diff_nil]

/-- As long as no call is refused, everything succeeds. -/
theorem results_unlimited {policy : Policy} {params : DivertParams} {rules : List Rule}
    (listed : Iptables.divertRules policy params = .ok rules) (changes : List RuleChange)
    {tables : List MemoryTable} (unlimited : ∀ table ∈ tables, table.limits = {})
    (machine : Machine) :
    results (changes.map fun change => (policy, change.use)) (inMemory tables params, machine) =
      changes.map fun _ => .ok () := by
  induction changes generalizing tables machine with
  | nil => rfl
  | cons change changes inductionHypothesis =>
    rcases perform_made listed change tables machine with ⟨held, made, performed⟩ | ⟨limited, _⟩
    · have unlimitedThen := forall₂_all (fun _ _ made => made.unlimited) made unlimited
      simp only [List.map_cons, results, performed]
      rw [inductionHypothesis unlimitedThen]
    · exact absurd unlimited limited

end LegacyBackend

/-- What installs and removals of a policy make of tables with any contents, and by which calls. An
install puts the rules that a table does not hold behind its contents, in their order; another one
changes nothing and only asks for the rules. A removal takes out the first occurrence of each rule,
and calls for no other deletion, so that after an install it leaves what a table held before, less
those rules. Without a refused call, all of them succeed. -/
theorem install_and_remove_exactly {policy : Policy} {params : DivertParams} {rules : List Rule}
    (listed : Iptables.divertRules policy params = .ok rules) (tables : List MemoryTable)
    (machine : Machine) :
    let start := (LegacyBackend.inMemory tables params, machine)
    ((∀ table ∈ tables, table.limits = {}) → ∀ changes : List RuleChange,
      LegacyBackend.results (changes.map fun change => (policy, change.use)) start =
        changes.map fun _ => .ok ()) ∧
    (∀ after, LegacyBackend.install policy start = (.ok (), after) →
      after.1.contents = tables.map
        (fun table => table.rules ++ rules.filter (· ∉ table.rules)) ∧
      after.2 = machine.recordAll (RuleChange.install.allCalls rules tables) ∧
      (∀ again, LegacyBackend.install policy after = (.ok (), again) →
        again.1.contents = after.1.contents ∧
        again.2 = after.2.recordAll (rules.flatMap fun rule =>
          tables.map fun table => ⟨table.family, .contains, rule⟩)) ∧
      ∀ last, LegacyBackend.remove policy after = (.ok (), last) →
        List.Forall₂ (fun table left =>
            left = table.rules.diff (rules.filter (· ∈ table.rules)) ∧
            ((∀ rule ∈ rules, rule ∉ table.rules) → left = table.rules))
          tables last.1.contents) ∧
    ∀ after, LegacyBackend.remove policy start = (.ok (), after) →
      after.1.contents = tables.map (fun table => table.rules.diff rules) ∧
      after.2 = machine.recordAll (RuleChange.remove.allCalls rules tables) := by
  intro start
  have distinct := Iptables.nodup_divertRules listed
  refine ⟨fun unlimited changes => LegacyBackend.results_unlimited listed changes unlimited machine,
    fun after installed => ?_, fun after removed => ?_⟩
  · obtain ⟨held, made, rfl⟩ := LegacyBackend.made_of_ok listed .install installed
    rw [RuleChange.changeAll_install distinct] at made
    refine ⟨LegacyBackend.contents_of_made made params, rfl, fun again installedAgain => ?_,
      fun last removed => ?_⟩
    · have complete : ∀ table ∈ held, ∀ rule ∈ rules, rule ∈ table.rules := by
        refine forall₂_all (P := fun _ => True) (fun before after first _ rule member => ?_) made
          fun _ _ => trivial
        by_cases found : rule ∈ before.rules <;> simp [first.rules, member, found]
      obtain ⟨same, asked⟩ := LegacyBackend.install_of_complete listed complete installedAgain
      refine ⟨same, asked.trans (congrArg (Machine.recordAll · _) ?_)⟩
      apply List.flatMap_congr
      intro rule _
      exact LegacyBackend.families_of_made made (TableCall.mk · .contains rule)
    · exact LegacyBackend.remove_of_installed listed made removed
  · obtain ⟨held, made, rfl⟩ := LegacyBackend.made_of_ok listed .remove removed
    rw [RuleChange.changeAll_remove] at made
    exact ⟨LegacyBackend.contents_of_made made params, rfl⟩

/-- Two tables, in one of which a divert rule stands twice. -/
def repeatedTables : List MemoryTable := [
  ⟨"ipv4", [
    ⟨"filter", "FORWARD", ["-j", "NFQUEUE", "--queue-num", "100", "--queue-bypass"]⟩,
    ⟨"filter", "FORWARD", ["-j", "LOG"]⟩,
    ⟨"filter", "FORWARD", ["-j", "NFQUEUE", "--queue-num", "100", "--queue-bypass"]⟩], {}⟩,
  ⟨"ipv6", [], { append := some 3 }⟩]

theorem install_and_remove_exactly_repeated :
    ∃ after last,
      LegacyBackend.install ⟨false, false⟩ (.inMemory repeatedTables .usual, .bare) =
        (.ok (), after) ∧
      LegacyBackend.remove ⟨false, false⟩ after = (.ok (), last) ∧
      List.Forall₂ (fun table left =>
          left = table.rules.diff
            ((Iptables.rulesOf ⟨false, false⟩ .usual).filter (· ∈ table.rules)) ∧
          ((∀ rule ∈ Iptables.rulesOf ⟨false, false⟩ .usual, rule ∉ table.rules) →
            left = table.rules))
        repeatedTables last.1.contents ∧
      last.1.contents = [[
        ⟨"filter", "FORWARD", ["-j", "LOG"]⟩,
        ⟨"filter", "FORWARD", ["-j", "NFQUEUE", "--queue-num", "100", "--queue-bypass"]⟩], []] := by
  have listed : Iptables.divertRules ⟨false, false⟩ .usual =
      .ok (Iptables.rulesOf ⟨false, false⟩ .usual) := rfl
  have installed : LegacyBackend.install ⟨false, false⟩ (.inMemory repeatedTables .usual, .bare) =
      (.ok (), _) :=
    Attempt.run_of_isOk (by decide +kernel)
  have removed : LegacyBackend.remove ⟨false, false⟩ (LegacyBackend.install ⟨false, false⟩
      (.inMemory repeatedTables .usual, .bare)).2 = (.ok (), _) :=
    Attempt.run_of_isOk (by decide +kernel)
  obtain ⟨_, exact, _⟩ := install_and_remove_exactly listed repeatedTables .bare
  obtain ⟨_, _, _, undone⟩ := exact _ installed
  exact ⟨_, _, installed, removed, undone _ removed, by decide +kernel⟩

end PacketDivert
