import PacketDivert.Firewall.Backend
import Mathlib.Data.List.Forall2

/-! What becomes of the contents of tables kept in memory when rules are put in or taken out of
them and any call to a table may be refused. -/

namespace PacketDivert

open Iptables (Rule)

/-- The divert rules of a policy; none if it cannot be enforced. -/
def Iptables.rulesOf (policy : Policy) (params : DivertParams) : List Rule :=
  (divertRules policy params).toOption.getD []

theorem Iptables.rulesOf_eq {policy : Policy} {params : DivertParams} {rules : List Rule}
    (listed : divertRules policy params = .ok rules) : rulesOf policy params = rules := by
  simp [rulesOf, listed, Except.toOption]

theorem forall₂_compose {α β γ : Type} {R : α → β → Prop} {S : β → γ → Prop} {T : α → γ → Prop}
    (compose : ∀ first second third, R first second → S second third → T first third)
    {firsts : List α} {seconds : List β} {thirds : List γ}
    (left : List.Forall₂ R firsts seconds) (right : List.Forall₂ S seconds thirds) :
    List.Forall₂ T firsts thirds := by
  induction left generalizing thirds with
  | nil =>
    cases right
    exact .nil
  | cons related _ inductionHypothesis =>
    cases right with
    | cons next rest => exact .cons (compose _ _ _ related next) (inductionHypothesis rest)

theorem forall₂_all {α β : Type} {R : α → β → Prop} {P : α → Prop} {Q : β → Prop}
    (carried : ∀ first second, R first second → P first → Q second) {firsts : List α}
    {seconds : List β} (related : List.Forall₂ R firsts seconds)
    (held : ∀ first ∈ firsts, P first) :
    ∀ second ∈ seconds, Q second := by
  induction related with
  | nil => simp
  | cons here _ inductionHypothesis =>
    obtain ⟨first, rest⟩ := List.forall_mem_cons.mp held
    exact List.forall_mem_cons.mpr ⟨carried _ _ here first, inductionHypothesis rest⟩

/-- Appends a rule unless it is there. -/
def appendNew (rule : Rule) (contents : List Rule) : List Rule :=
  if rule ∈ contents then contents else contents ++ [rule]

/-- Makes the change that belongs to each of some rules, one after the other. -/
def changeAll (change : Rule → List Rule → List Rule) (rules : List Rule) (contents : List Rule) :
    List Rule :=
  rules.foldl (fun contents rule => change rule contents) contents

@[simp] theorem changeAll_nil (change : Rule → List Rule → List Rule) (contents : List Rule) :
    changeAll change [] contents = contents := rfl

@[simp] theorem changeAll_cons (change : Rule → List Rule → List Rule) (rule : Rule)
    (rules contents : List Rule) :
    changeAll change (rule :: rules) contents = changeAll change rules (change rule contents) :=
  rfl

theorem mem_appendNew {rule other : Rule} {contents : List Rule} :
    other ∈ appendNew rule contents ↔ other ∈ contents ∨ other = rule := by
  unfold appendNew
  split
  · rename_i held
    constructor
    · exact .inl
    · rintro (kept | rfl)
      · exact kept
      · exact held
  · simp

/-- Distinct rules that are put in stand behind the earlier contents, less those that were there. -/
theorem changeAll_appendNew {rules : List Rule} (distinct : rules.Nodup) (contents : List Rule) :
    changeAll appendNew rules contents = contents ++ rules.filter (· ∉ contents) := by
  induction rules generalizing contents with
  | nil => simp
  | cons rule rules inductionHypothesis =>
    obtain ⟨fresh, distinctRest⟩ := List.nodup_cons.mp distinct
    rw [changeAll_cons, inductionHypothesis distinctRest]
    have sameRest : rules.filter (· ∉ appendNew rule contents) =
        rules.filter (· ∉ contents) := by
      apply List.filter_congr
      intro other member
      have different : other ≠ rule := fun same => fresh (same ▸ member)
      simp [mem_appendNew, different]
    rw [sameRest]
    by_cases held : rule ∈ contents <;> simp [appendNew, held]

theorem changeAll_erase (rules contents : List Rule) :
    changeAll (fun rule contents => contents.erase rule) rules contents = contents.diff rules :=
  (List.diff_eq_foldl contents rules).symm

namespace MemoryTable

theorem enter_cases (operation : TableOperation) (table : MemoryTable) :
    (∃ limits, enter operation table = (.ok (), { table with limits })) ∨
      enter operation table = (.error (refusal operation), table) := by
  unfold enter
  cases table.limits.spend operation with
  | none => exact .inr rfl
  | some limits => exact .inl ⟨limits, rfl⟩

/-- What a call that may change the contents of a table comes to: the change is made, or the call
fails and the contents stay. Its limits may have been used up either way. -/
inductive Outcome (change : List Rule → List Rule) (table : MemoryTable) :
    Except Error Unit → MemoryTable → Prop where
  | made (limits : TableLimits) :
      Outcome change table (.ok ()) { table with rules := change table.rules, limits }
  | refused (fault : Error) (limits : TableLimits) :
      Outcome change table (.error fault) { table with limits }

theorem contains_cases (rule : Rule) (table : MemoryTable) :
    (∃ limits, contains rule table =
      (.ok (decide (rule ∈ table.rules)), { table with limits })) ∨
    contains rule table = (.error (refusal .contains), table) := by
  rcases enter_cases .contains table with ⟨limits, entered⟩ | refused
  · exact .inl ⟨limits, by simp only [contains, bind, entered]⟩
  · exact .inr (by simp only [contains, bind, refused])

theorem append_outcome (rule : Rule) (table : MemoryTable) :
    Outcome (· ++ [rule]) table (append rule table).1 (append rule table).2 := by
  rcases enter_cases .append table with ⟨limits, entered⟩ | refused
  · simp only [append, bind, entered]
    exact .made limits
  · simp only [append, bind, refused]
    exact .refused _ table.limits

theorem delete_outcome {rule : Rule} {table : MemoryTable} (held : rule ∈ table.rules) :
    Outcome (List.erase · rule) table (delete rule table).1 (delete rule table).2 := by
  rcases enter_cases .delete table with ⟨limits, entered⟩ | refused
  · simp only [delete, bind, entered, held, ↓reduceIte]
    exact .made limits
  · simp only [delete, bind, refused]
    exact .refused _ table.limits

/-- An outcome depends neither on the limits before it nor on changes to other contents. -/
theorem Outcome.congr {change other : List Rule → List Rule} {table : MemoryTable}
    {limits : TableLimits} {result : Except Error Unit} {after : MemoryTable}
    (outcome : Outcome change { table with limits } result after)
    (same : change table.rules = other table.rules) : Outcome other table result after := by
  cases outcome with
  | made left =>
    rw [same]
    exact .made left
  | refused fault left => exact .refused fault left

end MemoryTable

namespace RuleTable

open MemoryTable (Outcome)

/-- An act that comes to one and the same change in every table kept in memory. -/
def Makes (act : Attempt Error (RuleTable × Machine) Unit) (change : List Rule → List Rule) :
    Prop :=
  ∀ (table : MemoryTable) (machine : Machine), ∃ result after reached,
    act (.memory table, machine) = (result, .memory after, reached) ∧
      Outcome change table result after

theorem ensurePresent_run (rule : Rule) (state : RuleTable × Machine) :
    ensurePresent rule state =
      match contains rule state with
      | (.ok held, reached) => if held then (.ok (), reached) else append rule reached
      | (.error fault, reached) => (.error fault, reached) := by
  rcases asked : contains rule state with ⟨_ | held, reached⟩
  · simp only [ensurePresent, bind, asked]
  · cases held <;> simp [ensurePresent, bind, asked]

theorem ensureAbsent_run (rule : Rule) (state : RuleTable × Machine) :
    ensureAbsent rule state =
      match contains rule state with
      | (.ok held, reached) => if held then delete rule reached else (.ok (), reached)
      | (.error fault, reached) => (.error fault, reached) := by
  rcases asked : contains rule state with ⟨_ | held, reached⟩
  · simp only [ensureAbsent, bind, asked]
  · cases held <;> simp [ensureAbsent, bind, asked]

theorem ensurePresent_makes (rule : Rule) : Makes (ensurePresent rule) (appendNew rule) := by
  intro table machine
  rw [ensurePresent_run]
  rcases MemoryTable.contains_cases rule table with ⟨limits, asked⟩ | refused
  · by_cases held : rule ∈ table.rules
    · refine ⟨_, _, _, by simp only [contains, callMemory, asked, held]; rfl, ?_⟩
      have made : Outcome (appendNew rule) table _ _ := .made limits
      simpa [appendNew, held] using made
    · refine ⟨_, _, _, by simp only [contains, callMemory, asked, held]; rfl, ?_⟩
      have outcome := MemoryTable.append_outcome rule { table with limits }
      exact outcome.congr (by simp [appendNew, held])
  · refine ⟨_, _, _, by simp only [contains, callMemory, refused]; rfl, ?_⟩
    exact .refused _ table.limits

theorem ensureAbsent_makes (rule : Rule) : Makes (ensureAbsent rule) (List.erase · rule) := by
  intro table machine
  rw [ensureAbsent_run]
  rcases MemoryTable.contains_cases rule table with ⟨limits, asked⟩ | refused
  · by_cases held : rule ∈ table.rules
    · refine ⟨_, _, _, by simp only [contains, callMemory, asked, held]; rfl, ?_⟩
      have outcome := @MemoryTable.delete_outcome rule { table with limits } held
      exact outcome.congr rfl
    · refine ⟨_, _, _, by simp only [contains, callMemory, asked, held]; rfl, ?_⟩
      have made : Outcome (List.erase · rule) table _ _ := .made limits
      simpa [List.erase_of_not_mem held] using made
  · refine ⟨_, _, _, by simp only [contains, callMemory, refused]; rfl, ?_⟩
    exact .refused _ table.limits

/-- In a round over several tables the change is made in each, unless the round fails, which leaves
the contents of some tables alone. -/
theorem forEach_makes {act : Attempt Error (RuleTable × Machine) Unit}
    {change : List Rule → List Rule} (makes : Makes act change) (tables : List MemoryTable)
    (machine : Machine) :
    ∃ result after reached,
      forEach act (tables.map .memory) machine = (result, after.map .memory, reached) ∧
      List.Forall₂ (fun (before after : MemoryTable) => after.family = before.family ∧
        (after.rules = change before.rules ∨ after.rules = before.rules ∧ result ≠ .ok ()))
        tables after := by
  induction tables generalizing machine with
  | nil => exact ⟨.ok (), [], machine, rfl, .nil⟩
  | cons table tables inductionHypothesis =>
    obtain ⟨result, changed, reached, acted, outcome⟩ := makes table machine
    cases outcome with
    | made limits =>
      obtain ⟨result, after, last, round, changes⟩ := inductionHypothesis reached
      refine ⟨result, { table with rules := change table.rules, limits } :: after, last, ?_,
        .cons ⟨rfl, .inl rfl⟩ changes⟩
      simp only [List.map_cons, forEach, acted, round]
    | refused fault limits =>
      refine ⟨.error fault, { table with limits } :: tables, reached, ?_,
        .cons ⟨rfl, .inr ⟨rfl, ?_⟩⟩ ?_⟩
      · simp only [List.map_cons, forEach, acted]
      · exact nofun
      · exact List.forall₂_same.mpr fun _ _ => ⟨rfl, .inr ⟨rfl, nofun⟩⟩

end RuleTable

/-- How far a pass over rules came in one table: the changes of its first rules were made, those of
all of them if the pass succeeded. -/
structure Progress (change : Rule → List Rule → List Rule) (rules : List Rule)
    (result : Except Error Unit) (before after : MemoryTable) : Prop where
  family : after.family = before.family
  contents : ∃ count, after.rules = changeAll change (rules.take count) before.rules ∧
    (result = .ok () → rules.length ≤ count)

namespace Progress

variable {change : Rule → List Rule → List Rule} {rules : List Rule} {result : Except Error Unit}
  {before middle after : MemoryTable}

theorem refl (failed : result ≠ .ok ()) : Progress change rules result before before where
  family := rfl
  contents := ⟨0, rfl, fun succeeded => absurd succeeded failed⟩

/-- A pass that has made the change of its first rule goes on with the others. -/
theorem cons {rule : Rule} (family : middle.family = before.family)
    (first : middle.rules = change rule before.rules)
    (rest : Progress change rules result middle after) :
    Progress change (rule :: rules) result before after where
  family := rest.family.trans family
  contents := by
    obtain ⟨count, reached, complete⟩ := rest.contents
    refine ⟨count + 1, ?_, fun succeeded => Nat.succ_le_succ (complete succeeded)⟩
    rw [reached, first, List.take_succ_cons, changeAll_cons]

theorem contents_of_ok (progress : Progress change rules (.ok ()) before after) :
    after.rules = changeAll change rules before.rules := by
  obtain ⟨count, reached, complete⟩ := progress.contents
  rw [reached, List.take_of_length_le (complete rfl)]

end Progress

namespace LegacyBackend

/-- A backend whose tables are all kept in memory. -/
def inMemory (tables : List MemoryTable) (params : DivertParams) : LegacyBackend where
  tables := tables.map .memory
  params

theorem forRules_cons (act : Rule → Attempt Error (RuleTable × Machine) Unit) (rule : Rule)
    (rules : List Rule) (tables : List RuleTable) (machine : Machine) :
    forRules act (rule :: rules) (tables, machine) =
      match RuleTable.forEach (act rule) tables machine with
      | (.ok _, reached) => forRules act rules reached
      | (.error fault, reached) => (.error fault, reached) := by
  rcases round : RuleTable.forEach (act rule) tables machine with ⟨_ | done, reached⟩ <;>
    simp only [forRules, bind, round]

theorem forRules_progress {act : Rule → Attempt Error (RuleTable × Machine) Unit}
    {change : Rule → List Rule → List Rule}
    (makes : ∀ rule, RuleTable.Makes (act rule) (change rule)) (rules : List Rule)
    (tables : List MemoryTable) (machine : Machine) :
    ∃ result after reached,
      forRules act rules (tables.map .memory, machine) =
        (result, after.map .memory, reached) ∧
      List.Forall₂ (Progress change rules result) tables after := by
  induction rules generalizing tables machine with
  | nil =>
    refine ⟨.ok (), tables, machine, rfl, List.forall₂_same.mpr fun _ _ => ⟨rfl, 0, rfl, ?_⟩⟩
    simp
  | cons rule rules inductionHypothesis =>
    obtain ⟨result, middle, reached, round, changes⟩ :=
      RuleTable.forEach_makes (makes rule) tables machine
    rw [forRules_cons, round]
    cases result with
    | error fault =>
      refine ⟨.error fault, middle, reached, rfl, changes.imp fun before after change => ?_⟩
      obtain ⟨family, changed | ⟨kept, failed⟩⟩ := change
      · exact .cons family changed (.refl nofun)
      · exact ⟨family, 0, kept, nofun⟩
    | ok done =>
      obtain ⟨result, after, last, pass, progress⟩ := inductionHypothesis middle reached
      refine ⟨result, after, last, pass, forall₂_compose ?_ changes progress⟩
      rintro before middle after ⟨family, changed | ⟨_, failed⟩⟩ rest
      · exact .cons family changed rest
      · exact absurd rfl failed

theorem apply_progress {act : Rule → Attempt Error (RuleTable × Machine) Unit}
    {change : Rule → List Rule → List Rule}
    (makes : ∀ rule, RuleTable.Makes (act rule) (change rule)) (policy : Policy)
    (tables : List MemoryTable) (params : DivertParams) (machine : Machine) :
    ∃ result after reached,
      apply act policy (inMemory tables params, machine) =
        (result, inMemory after params, reached) ∧
      List.Forall₂ (Progress change (Iptables.rulesOf policy params) result) tables after := by
  cases listed : Iptables.divertRules policy params with
  | error fault =>
    refine ⟨.error fault, tables, machine, by simp only [apply, inMemory, listed], ?_⟩
    exact List.forall₂_same.mpr fun _ _ => .refl nofun
  | ok rules =>
    obtain ⟨result, after, reached, pass, progress⟩ := forRules_progress makes rules tables machine
    refine ⟨result, after, reached, by simp only [apply, inMemory, listed, pass], ?_⟩
    rw [Iptables.rulesOf_eq listed]
    exact progress

end LegacyBackend

/-- What is done with a backend while it is in use. Before an install or a removal the calls that
its tables will refuse can be set anew, so any one of them may be the first to fail. -/
inductive BackendUse where
  | install
  | remove
  | limit (table : Nat) (limits : TableLimits)

namespace BackendUse

def perform (policy : Policy) : BackendUse → Attempt Error (LegacyBackend × Machine) Unit
  | .install => LegacyBackend.install policy
  | .remove => LegacyBackend.remove policy
  | .limit number limits => fun (backend, machine) =>
    (.ok (), { backend with tables := RuleTable.limitMemory limits number backend.tables },
      machine)

/-- What a use comes to in one table of the backend. -/
def Effect (rules : List Rule) (result : Except Error Unit) :
    BackendUse → MemoryTable → MemoryTable → Prop
  | .install => Progress appendNew rules result
  | .remove => Progress (fun rule contents => contents.erase rule) rules result
  | .limit _ _ => fun before after => after.family = before.family ∧ after.rules = before.rules

end BackendUse

theorem RuleTable.limitMemory_map (limits : TableLimits) (number : Nat)
    (tables : List MemoryTable) :
    ∃ after : List MemoryTable,
      limitMemory limits number (tables.map .memory) = after.map .memory ∧
      List.Forall₂ (fun (before after : MemoryTable) => after.family = before.family ∧
        after.rules = before.rules) tables after := by
  induction tables generalizing number with
  | nil => exact ⟨[], rfl, .nil⟩
  | cons table tables inductionHypothesis =>
    cases number with
    | zero =>
      exact ⟨{ table with limits } :: tables, rfl,
        .cons ⟨rfl, rfl⟩ (List.forall₂_same.mpr fun _ _ => ⟨rfl, rfl⟩)⟩
    | succ number =>
      obtain ⟨after, limited, same⟩ := inductionHypothesis number
      exact ⟨table :: after, by simp [limitMemory, limited], .cons ⟨rfl, rfl⟩ same⟩

namespace LegacyBackend

theorem perform_effect (policy : Policy) (use : BackendUse) (tables : List MemoryTable)
    (params : DivertParams) (machine : Machine) :
    ∃ result after reached,
      use.perform policy (inMemory tables params, machine) =
        (result, inMemory after params, reached) ∧
      List.Forall₂ (use.Effect (Iptables.rulesOf policy params) result) tables after := by
  cases use with
  | install => exact apply_progress RuleTable.ensurePresent_makes policy tables params machine
  | remove => exact apply_progress RuleTable.ensureAbsent_makes policy tables params machine
  | limit number limits =>
    obtain ⟨after, limited, same⟩ := RuleTable.limitMemory_map limits number tables
    exact ⟨.ok (), after, machine, by simp [BackendUse.perform, inMemory, limited], same⟩

/-- A backend after some uses, each for a policy of its own. -/
def afterUses : List (Policy × BackendUse) → LegacyBackend × Machine → LegacyBackend × Machine
  | [], state => state
  | (policy, use) :: uses, state => afterUses uses (use.perform policy state).2

/-- What every use preserves in a table, compared with a table of the start, holds in the end. -/
theorem afterUses_invariant {Kept : MemoryTable → MemoryTable → Prop} {params : DivertParams}
    (uses : List (Policy × BackendUse))
    (preserved : ∀ entry ∈ uses, ∀ result start before after, Kept start before →
      entry.2.Effect (Iptables.rulesOf entry.1 params) result before after → Kept start after)
    {starts tables : List MemoryTable} (held : List.Forall₂ Kept starts tables)
    (machine : Machine) :
    ∃ after reached, afterUses uses (inMemory tables params, machine) =
      (inMemory after params, reached) ∧ List.Forall₂ Kept starts after := by
  induction uses generalizing tables machine with
  | nil => exact ⟨tables, machine, rfl, held⟩
  | cons entry uses inductionHypothesis =>
    obtain ⟨policy, use⟩ := entry
    obtain ⟨result, middle, reached, performed, effects⟩ :=
      perform_effect policy use tables params machine
    have heldThen : List.Forall₂ Kept starts middle :=
      forall₂_compose (preserved (policy, use) (by simp) result) held effects
    simp only [afterUses, performed]
    exact inductionHypothesis (fun entry member => preserved entry (by simp [member])) heldThen
      reached

theorem afterUses_inMemory (uses : List (Policy × BackendUse)) (tables : List MemoryTable)
    (params : DivertParams) (machine : Machine) :
    ∃ after reached, afterUses uses (inMemory tables params, machine) =
      (inMemory after params, reached) := by
  have anything : List.Forall₂ (fun _ _ : MemoryTable => True) tables tables :=
    List.forall₂_same.mpr fun _ _ => trivial
  obtain ⟨after, reached, run, _⟩ :=
    afterUses_invariant uses (fun _ _ _ _ _ _ _ _ => trivial) anything machine
  exact ⟨after, reached, run⟩

end LegacyBackend

end PacketDivert
