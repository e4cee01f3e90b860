import PacketDivert.Proofs.Rules.IptablesClauses
import PacketDivert.Proofs.Rules.Traffic
import PacketDivert.Proofs.Text.Words

/-! How iptables understands the arguments of a rule, and that it understands divert rules as they
are meant. -/

namespace PacketDivert.Iptables

open Text (decimal?)

/-- Reads the arguments of a rule: tests on the packet, then what is done to it. A test on the
protocol is one on the packets of the table's own address family. -/
def readSpec : List String → Option Reading
  | "-p" :: "tcp" :: rest => (readSpec rest).map (.provided Traffic.isTcp)
  | "-m" :: "connmark" :: "--mark" :: value :: rest =>
    match decimal? value with
    | none => none
    | some mark => (readSpec rest).map (.provided fun traffic => traffic.mark.toNat == mark)
  | ["-j", "ACCEPT"] => some (.always .accept)
  | ["-j", "REJECT", "--reject-with", "tcp-reset"] => some (.always .reset)
  | ["-j", "DROP"] => some (.always .drop)
  | ["-j", "NFQUEUE", "--queue-num", number] =>
    (decimal? number).map fun number => .always (.queue number false)
  | ["-j", "NFQUEUE", "--queue-num", number, "--queue-bypass"] =>
    (decimal? number).map fun number => .always (.queue number true)
  | _ => none

/-- What the rules of the filter table do to a packet at a hook, if all of its chain are
understood. -/
def fate? (rules : List Rule) (hook : Hook) (traffic : Traffic) : Option (Option Fate) :=
  let chain := rules.filter fun rule => rule.table == "filter" && rule.chain == hook.chain
  (Reading.all? (fun rule => readSpec rule.spec) chain).map (Reading.firstMatch · traffic)

def Condition.meets : Condition → Traffic → Bool
  | .tcp, traffic => traffic.isTcp
  | .mark value, traffic => traffic.mark == value

def Target.fate : Target → Fate
  | .accept => .accept
  | .reset => .reset
  | .drop => .drop
  | .queue number => .queue number.toNat true

def Clause.reading (clause : Clause) : Reading :=
  clause.conditions.foldr (fun condition => .provided condition.meets) (.always clause.target.fate)

theorem readSpec_target (target : Target) :
    readSpec target.arguments = some (.always target.fate) := by
  cases target <;> simp [Target.arguments, readSpec, Target.fate]

theorem readSpec_condition (condition : Condition) (rest : List String) :
    readSpec (condition.arguments ++ rest) =
      (readSpec rest).map (.provided condition.meets) := by
  cases condition with
  | tcp => rfl
  | mark value =>
    have meets : (fun traffic : Traffic => traffic.mark.toNat == value.toNat) =
        (Condition.mark value).meets := by
      funext traffic
      rw [Bool.eq_iff_iff]
      simp [Condition.meets, UInt32.toNat_inj]
    simp [Condition.arguments, readSpec, meets]

/-- The arguments of a divert rule are read back as what the rule means. -/
theorem readSpec_rule (clause : Clause) : readSpec clause.rule.spec = some clause.reading := by
  obtain ⟨hook, conditions, target⟩ := clause
  induction conditions with
  | nil => exact readSpec_target target
  | cons condition conditions inductionHypothesis =>
    simp only [Clause.rule, Clause.reading, List.flatMap_cons, List.append_assoc,
      List.foldr_cons] at inductionHypothesis ⊢
    rw [readSpec_condition, inductionHypothesis]
    rfl

/-- The rules of one hook are consulted at that hook and at no other. -/
theorem filter_hookRules (policy : Policy) (params : DivertParams) (written hook : Hook) :
    ((hookClauses policy params written).map Clause.rule).filter
        (fun rule => rule.table == "filter" && rule.chain == hook.chain) =
      if written = hook then (hookClauses policy params hook).map Clause.rule else [] := by
  split
  · rename_i same
    subst same
    apply List.filter_eq_self.mpr
    intro rule member
    obtain ⟨clause, present, rfl⟩ := List.mem_map.mp member
    simp [Clause.rule, hook_of_mem_hookClauses present]
  · rename_i different
    apply List.filter_eq_nil_iff.mpr
    intro rule member
    obtain ⟨clause, present, rfl⟩ := List.mem_map.mp member
    have other : written.chain ≠ hook.chain := fun same => different (chain_injective same)
    simp [Clause.rule, hook_of_mem_hookClauses present, other]

/-- At a hook that a policy diverts, exactly the clauses of that hook are consulted, in order. -/
theorem filter_divertRules {policy : Policy} {params : DivertParams} {hook : Hook}
    (hooked : hook ∈ policy.hooks) :
    ((policy.hooks.flatMap (hookClauses policy params)).map Clause.rule).filter
        (fun rule => rule.table == "filter" && rule.chain == hook.chain) =
      (hookClauses policy params hook).map Clause.rule := by
  unfold Policy.hooks at hooked ⊢
  split
  · rename_i localTraffic
    simp only [localTraffic, ↓reduceIte, List.mem_cons, List.not_mem_nil, or_false] at hooked
    simp only [List.flatMap_cons, List.flatMap_nil, List.append_nil, List.map_append,
      List.filter_append, filter_hookRules]
    rcases hooked with rfl | rfl <;> simp
  · rename_i forwarded
    simp only [forwarded, Bool.false_eq_true, ↓reduceIte, List.mem_cons, List.not_mem_nil,
      or_false] at hooked
    simp only [List.flatMap_cons, List.flatMap_nil, List.append_nil, filter_hookRules, hooked,
      ↓reduceIte]

/-- At any other hook none of its clauses is consulted. -/
theorem filter_divertRules_of_not_mem {policy : Policy} (params : DivertParams) {hook : Hook}
    (unhooked : hook ∉ policy.hooks) :
    ((policy.hooks.flatMap (hookClauses policy params)).map Clause.rule).filter
        (fun rule => rule.table == "filter" && rule.chain == hook.chain) = [] := by
  rw [List.map_flatMap, List.filter_flatMap, List.flatMap_eq_nil_iff]
  intro written hooked
  have different : written ≠ hook := fun same => unhooked (same ▸ hooked)
  rw [filter_hookRules, if_neg different]

theorem firstMatch_hookClauses (policy : Policy) (params : DivertParams) (hook : Hook)
    (traffic : Traffic) :
    Reading.firstMatch ((hookClauses policy params hook).map Clause.reading) traffic =
      some (policy.fate params Traffic.isTcp traffic) := by
  unfold hookClauses Policy.fate
  by_cases accepted : traffic.mark = params.acceptMark
  · simp [Clause.reading, Reading.provided, Reading.always, Condition.meets, Target.fate, accepted]
  · by_cases dropped : traffic.mark = params.dropMark
    · have marks := params.marks_ne.symm
      cases policy.reset <;> cases tcp : traffic.isTcp <;>
        simp [Clause.reading, Reading.provided, Reading.always, Condition.meets, Target.fate,
          dropped, marks, tcp]
    · cases policy.reset <;>
        simp [Clause.reading, Reading.provided, Reading.always, Condition.meets, Target.fate,
          accepted, dropped]

theorem fate?_divertRules {policy : Policy} {params : DivertParams} {rules : List Rule}
    {hook : Hook} (listed : divertRules policy params = .ok rules) (hooked : hook ∈ policy.hooks)
    (traffic : Traffic) :
    fate? rules hook traffic = some (some (policy.fate params Traffic.isTcp traffic)) := by
  obtain ⟨coherent, rfl⟩ := divertRules_eq_ok_iff.mp listed
  have understood : Reading.all? (fun rule : Rule => readSpec rule.spec)
      ((hookClauses policy params hook).map Clause.rule) =
        some ((hookClauses policy params hook).map Clause.reading) :=
    Reading.all?_map (fun rule : Rule => readSpec rule.spec) Clause.rule readSpec_rule _
  simp only [fate?, filter_divertRules hooked, understood, Option.map_some,
    firstMatch_hookClauses]

theorem fate?_divertRules_of_not_mem {policy : Policy} {params : DivertParams} {rules : List Rule}
    {hook : Hook} (listed : divertRules policy params = .ok rules) (unhooked : hook ∉ policy.hooks)
    (traffic : Traffic) : fate? rules hook traffic = some none := by
  obtain ⟨coherent, rfl⟩ := divertRules_eq_ok_iff.mp listed
  simp only [fate?, filter_divertRules_of_not_mem params unhooked]
  rfl

end PacketDivert.Iptables
