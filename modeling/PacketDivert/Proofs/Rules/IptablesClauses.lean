import PacketDivert.Rules.Iptables
import Mathlib.Data.List.Nodup

namespace PacketDivert.Iptables

theorem divertRules_eq_ok_iff {policy : Policy} {params : DivertParams} {rules : List Rule} :
    divertRules policy params = .ok rules ↔
      policy.Coherent ∧
        (policy.hooks.flatMap (hookClauses policy params)).map Clause.rule = rules := by
  unfold divertRules divertClauses
  split
  · rename_i coherent
    simp [Except.map, coherent]
  · rename_i conflict
    simp [Except.map, conflict]

theorem chain_injective {hook other : Hook} (same : hook.chain = other.chain) : hook = other := by
  cases hook <;> cases other <;> first | rfl | exact absurd same (by decide)

theorem hook_of_mem_hookClauses {policy : Policy} {params : DivertParams} {hook : Hook}
    {clause : Clause} (member : clause ∈ hookClauses policy params hook) : clause.hook = hook := by
  unfold hookClauses at member
  split at member
  · simp only [List.cons_append, List.nil_append, List.mem_cons, List.not_mem_nil,
      or_false] at member
    rcases member with rfl | rfl | rfl | rfl <;> rfl
  · simp only [List.append_nil, List.cons_append, List.nil_append, List.mem_cons,
      List.not_mem_nil, or_false] at member
    rcases member with rfl | rfl | rfl <;> rfl

/-- The clauses of a hook that settle marked connections. -/
def markClauses (policy : Policy) (params : DivertParams) (hook : Hook) : List Clause :=
  [⟨hook, [.mark params.acceptMark], .accept⟩] ++
    (if policy.reset then [⟨hook, [.tcp, .mark params.dropMark], .reset⟩] else []) ++
    [⟨hook, [.mark params.dropMark], .drop⟩]

/-- The clause of a hook that queues what is left. -/
def queueClause (params : DivertParams) (hook : Hook) : Clause := ⟨hook, [], .queue params.queue⟩

theorem hookClauses_eq (policy : Policy) (params : DivertParams) (hook : Hook) :
    hookClauses policy params hook =
      markClauses policy params hook ++ [queueClause params hook] := by
  unfold hookClauses markClauses queueClause
  rw [List.append_assoc, List.append_assoc, List.append_assoc]
  rfl

theorem mark_mem_divertRules {policy : Policy} {params : DivertParams} {rules : List Rule}
    (listed : divertRules policy params = .ok rules) {hook : Hook} (hooked : hook ∈ policy.hooks)
    {clause : Clause} (settles : clause ∈ markClauses policy params hook) :
    [clause.rule, (queueClause params hook).rule].Sublist rules := by
  obtain ⟨_, rfl⟩ := divertRules_eq_ok_iff.mp listed
  have inHook : [clause, queueClause params hook].Sublist (hookClauses policy params hook) := by
    rw [hookClauses_eq]
    exact (List.singleton_sublist.mpr settles).append_right [queueClause params hook]
  have inAll : (hookClauses policy params hook).Sublist
      (policy.hooks.flatMap (hookClauses policy params)) := by
    rw [List.flatMap_def]
    exact List.sublist_flatten_of_mem (List.mem_map_of_mem hooked)
  exact (inHook.trans inAll).map Clause.rule

theorem nodup_hookRules (policy : Policy) (params : DivertParams) (hook : Hook) :
    ((hookClauses policy params hook).map Clause.rule).Nodup := by
  unfold hookClauses
  cases policy.reset <;>
    simp [Clause.rule, Condition.arguments, Target.arguments]

theorem nodup_hooks (policy : Policy) : policy.hooks.Nodup := by
  unfold Policy.hooks
  split <;> decide

/-- No rule is listed twice, whatever the marks and the queue. -/
theorem nodup_divertRules {policy : Policy} {params : DivertParams} {rules : List Rule}
    (listed : divertRules policy params = .ok rules) : rules.Nodup := by
  obtain ⟨_, rfl⟩ := divertRules_eq_ok_iff.mp listed
  rw [List.map_flatMap, List.nodup_flatMap]
  refine ⟨fun hook _ => nodup_hookRules policy params hook, ?_⟩
  refine (nodup_hooks policy).imp fun {first second} different => ?_
  intro rule inFirst inSecond
  obtain ⟨clause, present, rfl⟩ := List.mem_map.mp inFirst
  obtain ⟨other, alsoPresent, same⟩ := List.mem_map.mp inSecond
  have chains : other.hook.chain = clause.hook.chain := congrArg Rule.chain same
  rw [hook_of_mem_hookClauses present, hook_of_mem_hookClauses alsoPresent] at chains
  exact different (chain_injective chains).symm

end PacketDivert.Iptables
