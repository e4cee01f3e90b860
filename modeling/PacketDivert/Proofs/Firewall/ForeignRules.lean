import PacketDivert.Proofs.Firewall.Moments
import PacketDivert.Proofs.Firewall.RuleOrder

namespace PacketDivert

open Iptables (Rule)

/-- The rules that a use of a backend deals with. -/
def BackendUse.rules (policy : Policy) (params : DivertParams) : BackendUse → List Rule
  | .install | .remove => Iptables.rulesOf policy params
  | .limit _ _ => []

/-- The rules of all policies that are installed or removed in a run. -/
def rulesOfRun (params : DivertParams) (uses : List (Policy × BackendUse)) : List Rule :=
  uses.flatMap fun (policy, use) => use.rules policy params

/-- Contents of a table in which the rules that are not ours are as they were, and ours stand no
more often than once, or than they stood before. -/
structure Considerate (ours start contents : List Rule) : Prop where
  foreign : contents.filter (· ∉ ours) = start.filter (· ∉ ours)
  single : ∀ rule ∈ ours, contents.count rule ≤ max 1 (start.count rule)

namespace Considerate

variable {ours start contents : List Rule} {rule : Rule}

theorem refl (ours start : List Rule) : Considerate ours start start where
  foreign := rfl
  single _ _ := Nat.le_max_right _ _

/-- A rule is put in only where it stands nowhere yet. -/
theorem appendNew (kept : Considerate ours start contents) (mine : rule ∈ ours) :
    Considerate ours start (appendNew rule contents) := by
  unfold PacketDivert.appendNew
  split
  · exact kept
  · rename_i missing
    constructor
    · rw [List.filter_append, List.filter_cons_of_neg (by simp [mine]), List.filter_nil,
        List.append_nil]
      exact kept.foreign
    · intro other member
      rw [List.count_append]
      by_cases same : rule = other
      · subst same
        rw [List.count_eq_zero_of_not_mem missing, List.count_singleton_self]
        exact Nat.le_max_left _ _
      · rw [List.count_singleton, if_neg (by simpa using same)]
        exact kept.single other member

theorem erase (kept : Considerate ours start contents) (mine : rule ∈ ours) :
    Considerate ours start (contents.erase rule) where
  foreign := by
    have untouched : rule ∉ contents.filter (· ∉ ours) := by simp [mine]
    rw [← List.erase_filter, List.erase_of_not_mem untouched]
    exact kept.foreign
  single other member := Nat.le_trans (List.erase_sublist.count_le other) (kept.single other member)

theorem changeAll {change : Rule → List Rule → List Rule} {rules : List Rule}
    (step : ∀ rule ∈ ours, ∀ contents, Considerate ours start contents →
      Considerate ours start (change rule contents))
    (mine : ∀ rule ∈ rules, rule ∈ ours) (kept : Considerate ours start contents) :
    Considerate ours start (changeAll change rules contents) := by
  induction rules generalizing contents with
  | nil => exact kept
  | cons rule rules inductionHypothesis =>
    obtain ⟨here, rest⟩ := List.forall_mem_cons.mp mine
    exact inductionHypothesis rest (step rule here contents kept)

/-- A use of a backend is considerate however far it comes. -/
theorem used {policy : Policy} {params : DivertParams} {use : BackendUse}
    {result : Except Error Unit} {before after : MemoryTable}
    (mine : ∀ rule ∈ use.rules policy params, rule ∈ ours)
    (effect : use.Effect (Iptables.rulesOf policy params) result before after)
    (kept : Considerate ours start before.rules) : Considerate ours start after.rules := by
  cases use with
  | install =>
    obtain ⟨count, reached, _⟩ := Progress.contents effect
    rw [reached]
    exact kept.changeAll (fun _ member _ kept => kept.appendNew member)
      fun rule member => mine rule (List.mem_of_mem_take member)
  | remove =>
    obtain ⟨count, reached, _⟩ := Progress.contents effect
    rw [reached]
    exact kept.changeAll (fun _ member _ kept => kept.erase member)
      fun rule member => mine rule (List.mem_of_mem_take member)
  | limit number limits => exact effect.2 ▸ kept

end Considerate

/-- Whatever is installed and removed, and wherever a call to a table is refused, the rules of
others stay in every table as they are and in their order at all times, and no divert rule comes to
stand more often than once or than it stood at the start. -/
theorem foreign_rules_stay (params : DivertParams) (tables : List MemoryTable) (machine : Machine)
    (uses : List (Policy × BackendUse)) :
    ∀ now ∈ LegacyBackend.moments uses (.inMemory tables params, machine),
      List.Forall₂ (Considerate (rulesOfRun params uses)) (tables.map (·.rules))
        (now.1.map RuleTable.held) := by
  intro now member
  have preserved : ∀ entry ∈ uses, ∀ result start before after,
      Considerate (rulesOfRun params uses) (MemoryTable.rules start) before.rules →
      entry.2.Effect (Iptables.rulesOf entry.1 params) result before after →
      Considerate (rulesOfRun params uses) (MemoryTable.rules start) after.rules := by
    intro entry present result start before after kept effect
    exact kept.used (fun rule mine => List.mem_flatMap.mpr ⟨entry, present, mine⟩) effect
  have untouched : List.Forall₂ (fun start table : MemoryTable =>
      Considerate (rulesOfRun params uses) start.rules table.rules) tables tables :=
    List.forall₂_same.mpr fun table _ => .refl _ table.rules
  obtain ⟨met, same, kept⟩ :=
    LegacyBackend.moments_invariant uses preserved untouched machine now member
  rw [same, List.map_map, List.forall₂_map_left_iff, List.forall₂_map_right_iff]
  exact kept

/-- A table in which one of the divert rules stands twice, and which takes one more rule. -/
def fullTable : MemoryTable where
  family := "ipv4"
  rules := [
    ⟨"filter", "FORWARD", ["-j", "NFQUEUE", "--queue-num", "100", "--queue-bypass"]⟩,
    ⟨"filter", "FORWARD", ["-j", "LOG"]⟩,
    ⟨"filter", "FORWARD", ["-j", "NFQUEUE", "--queue-num", "100", "--queue-bypass"]⟩]
  limits := { append := some 1 }

/-- An install that is cut short, and its removal. -/
def cutShort : List (Policy × BackendUse) :=
  [(⟨false, false⟩, .install), (⟨false, false⟩, .remove)]

/-- At the end of such a run one of the two rules is gone. -/
theorem foreign_rules_stay_cut_short :
    ∃ now ∈ LegacyBackend.moments cutShort (.inMemory [fullTable] .usual, .bare),
      now.1.map RuleTable.held = [[
        ⟨"filter", "FORWARD", ["-j", "LOG"]⟩,
        ⟨"filter", "FORWARD", ["-j", "NFQUEUE", "--queue-num", "100", "--queue-bypass"]⟩]] ∧
      List.Forall₂ (Considerate (rulesOfRun .usual cutShort)) [fullTable.rules]
        (now.1.map RuleTable.held) := by
  have member := List.getLast_mem
    (LegacyBackend.moments_ne_nil cutShort (.inMemory [fullTable] .usual, .bare))
  refine ⟨_, member, by decide +kernel, ?_⟩
  exact foreign_rules_stay .usual [fullTable] .bare cutShort _ member

end PacketDivert
