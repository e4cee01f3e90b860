import PacketDivert.Proofs.Firewall.CompletePasses

namespace PacketDivert

open Iptables (Rule)

namespace RuleChange

variable {change : RuleChange} {rules contents : List Rule}

/-- Changes that are made again for first ones of some rules come to nothing. -/
def Settles (change : RuleChange) (rules contents : List Rule) : Prop :=
  ∀ front, front <+: rules → ∀ rule ∈ front,
    change.edit rule (changeAll change.edit front contents) = changeAll change.edit front contents

theorem install_settles (distinct : rules.Nodup) (contents : List Rule) :
    install.Settles rules contents := by
  intro front leading rule member
  have held : rule ∈ changeAll appendNew front contents := by
    rw [changeAll_appendNew (leading.sublist.nodup distinct)]
    by_cases found : rule ∈ contents <;> simp [found, member]
  exact if_pos held

/-- A rule that stands only once is gone with its first occurrence. -/
theorem remove_settles (single : ∀ rule ∈ rules, contents.count rule ≤ 1) :
    remove.Settles rules contents := by
  intro front leading rule member
  have gone : rule ∉ contents.diff front := by
    have once := single rule (leading.subset member)
    have taken : 0 < front.count rule := List.count_pos_iff.mpr member
    rw [← List.count_eq_zero, List.count_diff]
    omega
  change (changeAll remove.edit front contents).erase rule = _
  have erased : changeAll remove.edit front contents = contents.diff front := changeAll_erase _ _
  rw [erased, List.erase_of_not_mem gone]

theorem changeAll_append (more : List Rule) :
    changeAll change.edit (rules ++ more) contents =
      changeAll change.edit more (changeAll change.edit rules contents) :=
  List.foldl_append

theorem changeAll_of_settled {settled : List Rule}
    (idle : ∀ rule ∈ rules, change.edit rule settled = settled) :
    changeAll change.edit rules settled = settled := by
  induction rules with
  | nil => rfl
  | cons rule rules inductionHypothesis =>
    obtain ⟨here, rest⟩ := List.forall_mem_cons.mp idle
    rw [changeAll_cons, here, inductionHypothesis rest]

/-- A pass goes on where an earlier one stopped, if it comes so far. -/
theorem changeAll_resume (settles : change.Settles rules contents) (reached count : Nat) :
    changeAll change.edit (rules.take count) (changeAll change.edit (rules.take reached) contents) =
      changeAll change.edit (rules.take (max reached count)) contents := by
  have idle := settles (rules.take reached) (List.take_prefix reached rules)
  rcases Nat.le_total count reached with shorter | longer
  · rw [Nat.max_eq_left shorter]
    exact changeAll_of_settled fun rule member =>
      idle rule ((List.take_prefix_take_left shorter).subset member)
  · rw [Nat.max_eq_right longer]
    obtain ⟨more, split⟩ : rules.take reached <+: rules.take count :=
      List.take_prefix_take_left longer
    rw [← split, changeAll_append, changeAll_append, changeAll_of_settled idle]

/-- A table that one or more tries have changed for first ones of some rules. -/
structure Underway (change : RuleChange) (rules : List Rule) (start table : MemoryTable) :
    Prop where
  family : table.family = start.family
  contents : ∃ count, table.rules = changeAll change.edit (rules.take count) start.rules

namespace Underway

variable {start before after : MemoryTable} {result : Except Error Unit}

theorem opened (change : RuleChange) (rules : List Rule) (start : MemoryTable) :
    Underway change rules start start where
  family := rfl
  contents := ⟨0, rfl⟩

/-- A try that fails leaves a table underway. -/
theorem tried (underway : Underway change rules start before)
    (settles : change.Settles rules start.rules)
    (progress : Progress change.edit rules result before after) :
    Underway change rules start after where
  family := progress.family.trans underway.family
  contents := by
    obtain ⟨reached, found⟩ := underway.contents
    obtain ⟨count, left, _⟩ := progress.contents
    exact ⟨max reached count, by rw [left, found, changeAll_resume settles]⟩

/-- A try that succeeds completes what the others have begun. -/
theorem completed (underway : Underway change rules start before)
    (settles : change.Settles rules start.rules)
    (progress : Progress change.edit rules (.ok ()) before after) :
    after.rules = changeAll change.edit rules start.rules := by
  obtain ⟨reached, found⟩ := underway.contents
  have resumed := changeAll_resume settles reached (max reached rules.length)
  rw [List.take_of_length_le (Nat.le_max_right _ _), ← found] at resumed
  rw [progress.contents_of_ok, resumed, List.take_of_length_le]
  omega

end Underway

end RuleChange

/-- Whether a use is one more try of an install or of a removal. Between tries, the calls that the
tables will refuse may be set anew. -/
def BackendUse.Tries (change : RuleChange) : BackendUse → Prop
  | .install => change = .install
  | .remove => change = .remove
  | .limit _ _ => True

theorem BackendUse.Tries.underway {change : RuleChange} {use : BackendUse}
    (tries : use.Tries change)
    {rules : List Rule} {result : Except Error Unit} {start before after : MemoryTable}
    (settles : change.Settles rules start.rules) (effect : use.Effect rules result before after)
    (underway : change.Underway rules start before) : change.Underway rules start after := by
  cases use with
  | install =>
    obtain rfl : change = .install := tries
    exact underway.tried settles effect
  | remove =>
    obtain rfl : change = .remove := tries
    exact underway.tried settles effect
  | limit number limits =>
    exact ⟨effect.1.trans underway.family, effect.2 ▸ underway.contents⟩

theorem BackendUse.effect_use (change : RuleChange) (rules : List Rule)
    (result : Except Error Unit) :
    change.use.Effect rules result = Progress change.edit rules result := by
  cases change <;> rfl

namespace LegacyBackend

variable {policy : Policy} {params : DivertParams} {rules : List Rule} {change : RuleChange}

/-- The try that succeeds leaves every table as if there had been no others. -/
theorem contents_of_tries (listed : Iptables.divertRules policy params = .ok rules)
    {tables : List MemoryTable} (settles : ∀ table ∈ tables, change.Settles rules table.rules)
    {tries : List BackendUse} (retried : ∀ use ∈ tries, use.Tries change) (machine : Machine)
    {after : LegacyBackend × Machine}
    (succeeded : change.use.perform policy
      (afterUses (tries.map (policy, ·)) (inMemory tables params, machine)) = (.ok (), after)) :
    after.1.contents = tables.map fun table => changeAll change.edit rules table.rules := by
  have begun : List.Forall₂ (fun start table => change.Settles rules start.rules ∧
      change.Underway rules start table) tables tables :=
    List.forall₂_same.mpr fun table member => ⟨settles table member, .opened change rules table⟩
  have preserved : ∀ entry ∈ tries.map (policy, ·), ∀ result start before after,
      change.Settles rules (MemoryTable.rules start) ∧ change.Underway rules start before →
      entry.2.Effect (Iptables.rulesOf entry.1 params) result before after →
      change.Settles rules start.rules ∧ change.Underway rules start after := by
    intro entry member result start before after kept effect
    obtain ⟨use, present, rfl⟩ := List.mem_map.mp member
    rw [Iptables.rulesOf_eq listed] at effect
    exact ⟨kept.1, (retried use present).underway kept.1 effect kept.2⟩
  obtain ⟨found, reached, run, underway⟩ := afterUses_invariant _ preserved begun machine
  obtain ⟨result, held, last, performed, effects⟩ :=
    perform_effect policy change.use found params reached
  rw [run, performed] at succeeded
  obtain ⟨rfl, rfl⟩ := Prod.mk.inj succeeded
  rw [BackendUse.effect_use, Iptables.rulesOf_eq listed] at effects
  have complete : List.Forall₂ (fun start held : MemoryTable =>
      held.rules = changeAll change.edit rules start.rules) tables held :=
    forall₂_compose (fun _ _ _ kept progress => kept.2.completed kept.1 progress) underway effects
  rw [contents_inMemory]
  exact map_eq_of_forall₂ complete

end LegacyBackend

/-- However many installs are tried, and whichever calls are refused to them, the first one that
succeeds leaves in every table what a single install would have left on the contents of the start.
So it is with removals, where no rule stands twice. -/
theorem retries_converge {policy : Policy} {params : DivertParams} {rules : List Rule}
    (listed : Iptables.divertRules policy params = .ok rules) (change : RuleChange)
    {tables : List MemoryTable}
    (single : change = .remove → ∀ table ∈ tables, ∀ rule ∈ rules, table.rules.count rule ≤ 1)
    {tries : List BackendUse} (retried : ∀ use ∈ tries, use.Tries change)
    (machine other : Machine) {after : LegacyBackend × Machine}
    (succeeded : change.use.perform policy (LegacyBackend.afterUses (tries.map (policy, ·))
      (.inMemory tables params, machine)) = (.ok (), after)) :
    let unlimited := tables.map fun table => { table with limits := {} }
    ∃ once, change.use.perform policy (.inMemory unlimited params, other) = (.ok (), once) ∧
      after.1.contents = once.1.contents := by
  intro unlimited
  have settles : ∀ table ∈ tables, change.Settles rules table.rules := by
    intro table member
    cases change with
    | install => exact RuleChange.install_settles (Iptables.nodup_divertRules listed) table.rules
    | remove => exact RuleChange.remove_settles (single rfl table member)
  rcases LegacyBackend.perform_made listed change unlimited other with
    ⟨held, made, performed⟩ | ⟨limited, _⟩
  · refine ⟨_, performed, ?_⟩
    rw [LegacyBackend.contents_of_tries listed settles retried machine succeeded,
      LegacyBackend.contents_of_made made, List.map_map]
    rfl
  · exact absurd (by simp [unlimited]) limited

/-- Two tables that hold the rules of a policy, one of them behind a rule of its own. -/
def divertingTables : List MemoryTable := [
  ⟨"ipv4", ⟨"filter", "FORWARD", ["-j", "LOG"]⟩ :: Iptables.rulesOf ⟨false, false⟩ .usual, {}⟩,
  ⟨"ipv6", Iptables.rulesOf ⟨false, false⟩ .usual, {}⟩]

/-- Two removals that are cut short: by a deletion in the first table, then by a check in the
second one. -/
def refusedRemovals : List BackendUse := [
  .limit 0 { delete := some 1 }, .remove, .limit 0 {},
  .limit 1 { contains := some 1 }, .remove, .limit 1 {}]

theorem retries_converge_removals :
    (∀ table ∈ divertingTables, ∀ rule ∈ Iptables.rulesOf ⟨false, false⟩ .usual,
      table.rules.count rule ≤ 1) ∧
    ∃ after once,
      LegacyBackend.remove ⟨false, false⟩ (LegacyBackend.afterUses
        (refusedRemovals.map (⟨false, false⟩, ·)) (.inMemory divertingTables .usual, .bare)) =
          (.ok (), after) ∧
      LegacyBackend.remove ⟨false, false⟩ (.inMemory (divertingTables.map fun table =>
        { table with limits := {} }) .usual, .bare) = (.ok (), once) ∧
      after.1.contents = once.1.contents ∧
      after.1.contents = [[⟨"filter", "FORWARD", ["-j", "LOG"]⟩], []] := by
  have listed : Iptables.divertRules ⟨false, false⟩ .usual =
      .ok (Iptables.rulesOf ⟨false, false⟩ .usual) := rfl
  have single : ∀ table ∈ divertingTables, ∀ rule ∈ Iptables.rulesOf ⟨false, false⟩ .usual,
      table.rules.count rule ≤ 1 := by decide +kernel
  have retried : ∀ use ∈ refusedRemovals, use.Tries .remove := by
    simp [refusedRemovals, BackendUse.Tries]
  have succeeded : LegacyBackend.remove ⟨false, false⟩ (LegacyBackend.afterUses
      (refusedRemovals.map (⟨false, false⟩, ·)) (.inMemory divertingTables .usual, .bare)) =
        (.ok (), _) :=
    Attempt.run_of_isOk (by decide +kernel)
  obtain ⟨once, removed, same⟩ :=
    retries_converge listed .remove (fun _ => single) retried .bare .bare succeeded
  exact ⟨single, _, once, succeeded, removed, same, by decide +kernel⟩

end PacketDivert
