import PacketDivert.Proofs.Firewall.Contents

/-! What the tables of a backend go through while rules are put in and taken out. They are met after
every call to one of them, be it in the middle of an install or a removal. -/

namespace PacketDivert

open Iptables (Rule)

/-- What a backend is asked to do with the rules of a policy. -/
inductive RuleChange where
  | install
  | remove
  deriving DecidableEq, Repr

namespace RuleChange

def use : RuleChange → BackendUse
  | .install => .install
  | .remove => .remove

/-- What is done to one rule in one table. -/
def act : RuleChange → Rule → Attempt Error (RuleTable × Machine) Unit
  | .install => RuleTable.ensurePresent
  | .remove => RuleTable.ensureAbsent

/-- The call that alters a table. -/
def alter : RuleChange → Rule → Attempt Error (RuleTable × Machine) Unit
  | .install => RuleTable.append
  | .remove => RuleTable.delete

/-- Whether a table has to be altered for a rule that it holds or does not hold. -/
def due : RuleChange → (held : Bool) → Bool
  | .install, held => !held
  | .remove, held => held

/-- What becomes of the contents of a table. -/
def edit : RuleChange → Rule → List Rule → List Rule
  | .install => appendNew
  | .remove => fun rule contents => contents.erase rule

/-- The states that a table and the machine are met in while a rule is dealt with: after the table
was asked for the rule, and after it was altered, if it had to be. -/
def moments (change : RuleChange) (rule : Rule) (state : RuleTable × Machine) :
    List (RuleTable × Machine) :=
  match RuleTable.contains rule state with
  | (.error _, asked) => [asked]
  | (.ok held, asked) => asked :: if change.due held then [(change.alter rule asked).2] else []

/-- The states that some tables and the machine are met in while a rule is dealt with in each. -/
def roundMoments (change : RuleChange) (rule : Rule) :
    List RuleTable → Machine → List (List RuleTable × Machine)
  | [], _ => []
  | table :: tables, machine =>
    (change.moments rule (table, machine)).map (fun now => (now.1 :: tables, now.2)) ++
      match change.act rule (table, machine) with
      | (.error _, _) => []
      | (.ok (), after, reached) =>
        (roundMoments change rule tables reached).map fun now => (after :: now.1, now.2)

def passMoments (change : RuleChange) :
    List Rule → List RuleTable × Machine → List (List RuleTable × Machine)
  | [], _ => []
  | rule :: rules, (tables, machine) =>
    change.roundMoments rule tables machine ++
      match RuleTable.forEach (change.act rule) tables machine with
      | (.error _, _) => []
      | (.ok (), reached) => passMoments change rules reached

theorem act_run (change : RuleChange) (rule : Rule) (state : RuleTable × Machine) :
    change.act rule state =
      match RuleTable.contains rule state with
      | (.error fault, asked) => (.error fault, asked)
      | (.ok held, asked) =>
        if change.due held then change.alter rule asked else (.ok (), asked) := by
  cases change with
  | install =>
    rw [act, RuleTable.ensurePresent_run]
    rcases RuleTable.contains rule state with ⟨_ | _ | _, asked⟩ <;> rfl
  | remove =>
    rw [act, RuleTable.ensureAbsent_run]
    rcases RuleTable.contains rule state with ⟨_ | _ | _, asked⟩ <;> rfl

theorem act_makes (change : RuleChange) (rule : Rule) :
    RuleTable.Makes (change.act rule) (change.edit rule) := by
  cases change with
  | install => exact RuleTable.ensurePresent_makes rule
  | remove => exact RuleTable.ensureAbsent_makes rule

theorem perform_use (change : RuleChange) (policy : Policy) :
    change.use.perform policy = LegacyBackend.apply change.act policy := by
  cases change <;> rfl

/-- The state that a rule is dealt with in last is the one that dealing with it ends in. -/
theorem getLast?_moments (change : RuleChange) (rule : Rule) (state : RuleTable × Machine) :
    (change.moments rule state).getLast? = some (change.act rule state).2 := by
  rw [moments, act_run]
  rcases RuleTable.contains rule state with ⟨_ | held, asked⟩
  · rfl
  · cases due : change.due held <;> simp [due]

/-- In a round without tables nothing is met. -/
theorem getLast?_roundMoments (change : RuleChange) (rule : Rule) (tables : List RuleTable)
    (machine : Machine) :
    (change.roundMoments rule tables machine).getLast?.getD (tables, machine) =
      (RuleTable.forEach (change.act rule) tables machine).2 := by
  induction tables generalizing machine with
  | nil => rfl
  | cons table tables inductionHypothesis =>
    rw [roundMoments, RuleTable.forEach, List.getLast?_append, List.getLast?_map, getLast?_moments]
    rcases change.act rule (table, machine) with ⟨_ | _, after, reached⟩
    · rfl
    · let behind := fun now : List RuleTable × Machine => (after :: now.1, now.2)
      have last : ∀ now? : Option (List RuleTable × Machine),
          ((now?.map behind).or (some (after :: tables, reached))).getD (table :: tables, machine) =
            behind (now?.getD (tables, reached)) := fun now? => by cases now? <;> rfl
      dsimp only
      rw [List.getLast?_map]
      exact (last _).trans (congrArg behind (inductionHypothesis reached))

theorem getLast?_passMoments (change : RuleChange) (rules : List Rule)
    (state : List RuleTable × Machine) :
    (change.passMoments rules state).getLast?.getD state =
      (LegacyBackend.forRules change.act rules state).2 := by
  obtain ⟨tables, machine⟩ := state
  induction rules generalizing tables machine with
  | nil => rfl
  | cons rule rules inductionHypothesis =>
    have round := change.getLast?_roundMoments rule tables machine
    rw [passMoments, LegacyBackend.forRules_cons, List.getLast?_append]
    rcases ran : RuleTable.forEach (change.act rule) tables machine with ⟨_ | _, reached⟩
    · rw [ran] at round
      exact round
    · rw [ran] at round
      dsimp only
      rw [← inductionHypothesis reached.1 reached.2, Option.getD_or, round]

end RuleChange

/-- The states that the tables of a backend and the machine are met in during a use. Limits that are
set anew change no contents. -/
def BackendUse.moments (policy : Policy) :
    BackendUse → LegacyBackend × Machine → List (List RuleTable × Machine)
  | .install, (backend, machine) =>
    RuleChange.install.passMoments (Iptables.rulesOf policy backend.params)
      (backend.tables, machine)
  | .remove, (backend, machine) =>
    RuleChange.remove.passMoments (Iptables.rulesOf policy backend.params) (backend.tables, machine)
  | .limit _ _, _ => []

/-- All states that the tables of a backend and the machine are met in during a run, from the first
to the last. -/
def LegacyBackend.moments :
    List (Policy × BackendUse) → LegacyBackend × Machine → List (List RuleTable × Machine)
  | [], (backend, machine) => [(backend.tables, machine)]
  | (policy, use) :: uses, (backend, machine) =>
    (backend.tables, machine) :: use.moments policy (backend, machine) ++
      moments uses (use.perform policy (backend, machine)).2

/-- An install or a removal, whether it is cut short or not, ends in the last state that is met. -/
theorem RuleChange.getLast?_moments_use (change : RuleChange) (policy : Policy)
    (backend : LegacyBackend) (machine : Machine) :
    (change.use.moments policy (backend, machine)).getLast?.getD (backend.tables, machine) =
      let (_, after, reached) := change.use.perform policy (backend, machine)
      (after.tables, reached) := by
  have met : change.use.moments policy (backend, machine) =
      change.passMoments (Iptables.rulesOf policy backend.params) (backend.tables, machine) := by
    cases change <;> rfl
  rw [met, getLast?_passMoments, perform_use, LegacyBackend.apply]
  cases listed : Iptables.divertRules policy backend.params with
  | error fault => simp [Iptables.rulesOf, listed, Except.toOption, LegacyBackend.forRules]
  | ok rules => simp [Iptables.rulesOf_eq listed]

/-- And so does a run. -/
theorem LegacyBackend.getLast?_moments (uses : List (Policy × BackendUse))
    (state : LegacyBackend × Machine) :
    (moments uses state).getLast? =
      some ((afterUses uses state).1.tables, (afterUses uses state).2) := by
  induction uses generalizing state with
  | nil => rfl
  | cons entry uses inductionHypothesis =>
    obtain ⟨policy, use⟩ := entry
    rw [moments, afterUses, List.getLast?_append, inductionHypothesis]
    rfl

theorem LegacyBackend.moments_ne_nil (uses : List (Policy × BackendUse))
    (state : LegacyBackend × Machine) : moments uses state ≠ [] := by
  cases uses with
  | nil => exact List.cons_ne_nil _ _
  | cons entry uses => exact List.append_ne_nil_of_left_ne_nil (List.cons_ne_nil _ _) _

namespace RuleChange

open MemoryTable (Outcome)

theorem alter_inMemory (change : RuleChange) {rule : Rule} {table : MemoryTable}
    (due : change.due (decide (rule ∈ table.rules)) = true) (machine : Machine) :
    ∃ result after reached,
      change.alter rule (.memory table, machine) = (result, .memory after, reached) ∧
        Outcome (change.edit rule) table result after := by
  cases change with
  | install =>
    have missing : rule ∉ table.rules := by simpa [RuleChange.due] using due
    refine ⟨_, _, _, rfl, ?_⟩
    exact (MemoryTable.append_outcome rule table).congr (by simp [edit, appendNew, missing])
  | remove =>
    have held : rule ∈ table.rules := of_decide_eq_true due
    exact ⟨_, _, _, rfl, MemoryTable.delete_outcome held⟩

/-- While a rule is dealt with, a table holds what it held before or what it is to hold. -/
theorem moments_inMemory (change : RuleChange) (rule : Rule) (table : MemoryTable)
    (machine : Machine) :
    ∀ now ∈ change.moments rule (.memory table, machine), ∃ met : MemoryTable,
      now.1 = .memory met ∧ met.family = table.family ∧
        (met.rules = change.edit rule table.rules ∨ met.rules = table.rules) := by
  intro now member
  rcases MemoryTable.contains_cases rule table with ⟨limits, asked⟩ | refused
  · simp only [moments, RuleTable.contains, RuleTable.callMemory, asked] at member
    rcases List.mem_cons.mp member with rfl | altered
    · exact ⟨{ table with limits }, rfl, rfl, .inr rfl⟩
    · split at altered
      · rename_i due
        obtain ⟨result, after, reached, made, outcome⟩ :=
          @alter_inMemory change rule { table with limits } due
            (machine.record ⟨table.family, .contains, rule⟩)
        rw [made, List.mem_singleton] at altered
        subst altered
        cases outcome with
        | made left => exact ⟨_, rfl, rfl, .inl rfl⟩
        | refused fault left => exact ⟨_, rfl, rfl, .inr rfl⟩
      · exact absurd altered List.not_mem_nil
  · simp only [moments, RuleTable.contains, RuleTable.callMemory, refused,
      List.mem_singleton] at member
    subst member
    exact ⟨table, rfl, rfl, .inr rfl⟩

theorem roundMoments_inMemory (change : RuleChange) (rule : Rule) (tables : List MemoryTable)
    (machine : Machine) :
    ∀ now ∈ change.roundMoments rule (tables.map .memory) machine, ∃ met : List MemoryTable,
      now.1 = met.map .memory ∧
      List.Forall₂ (fun (before after : MemoryTable) => after.family = before.family ∧
        (after.rules = change.edit rule before.rules ∨ after.rules = before.rules)) tables met := by
  induction tables generalizing machine with
  | nil => exact fun _ member => absurd member List.not_mem_nil
  | cons table tables inductionHypothesis =>
    intro now member
    simp only [List.map_cons, roundMoments] at member
    rcases List.mem_append.mp member with first | later
    · obtain ⟨head, present, rfl⟩ := List.mem_map.mp first
      obtain ⟨met, same, changed⟩ := change.moments_inMemory rule table machine head present
      refine ⟨met :: tables, by rw [same]; rfl, .cons changed ?_⟩
      exact List.forall₂_same.mpr fun _ _ => ⟨rfl, .inr rfl⟩
    · obtain ⟨result, after, reached, acted, outcome⟩ := change.act_makes rule table machine
      rw [acted] at later
      cases outcome with
      | refused fault limits => exact absurd later List.not_mem_nil
      | made limits =>
        obtain ⟨rest, present, rfl⟩ := List.mem_map.mp later
        obtain ⟨met, same, changed⟩ := inductionHypothesis reached rest present
        refine ⟨{ table with rules := change.edit rule table.rules, limits } :: met, ?_,
          .cons ⟨rfl, .inl rfl⟩ changed⟩
        rw [same]
        rfl

/-- In the middle of a pass every table is as far as a pass that fails there leaves it. -/
theorem passMoments_inMemory (change : RuleChange) (fault : Error) (rules : List Rule)
    (tables : List MemoryTable) (machine : Machine) :
    ∀ now ∈ change.passMoments rules (tables.map .memory, machine), ∃ met : List MemoryTable,
      now.1 = met.map .memory ∧
      List.Forall₂ (Progress change.edit rules (.error fault)) tables met := by
  induction rules generalizing tables machine with
  | nil => exact fun _ member => absurd member List.not_mem_nil
  | cons rule rules inductionHypothesis =>
    intro now member
    rw [passMoments] at member
    rcases List.mem_append.mp member with here | later
    · obtain ⟨met, same, changes⟩ := change.roundMoments_inMemory rule tables machine now here
      refine ⟨met, same, changes.imp fun before after changed => ?_⟩
      obtain ⟨family, made | kept⟩ := changed
      · exact .cons family made (.refl nofun)
      · exact ⟨family, 0, kept, nofun⟩
    · obtain ⟨result, middle, reached, round, changes⟩ :=
        RuleTable.forEach_makes (change.act_makes rule) tables machine
      rw [round] at later
      cases result with
      | error cause => exact absurd later List.not_mem_nil
      | ok done =>
        obtain ⟨met, same, progress⟩ := inductionHypothesis middle reached now later
        refine ⟨met, same, forall₂_compose ?_ changes progress⟩
        rintro before between after ⟨family, made | ⟨_, failed⟩⟩ rest
        · exact .cons family made rest
        · exact absurd rfl failed

end RuleChange

namespace LegacyBackend

theorem useMoments_effect (policy : Policy) (use : BackendUse) (tables : List MemoryTable)
    (params : DivertParams) (machine : Machine) :
    ∀ now ∈ use.moments policy (inMemory tables params, machine), ∃ met : List MemoryTable,
      now.1 = met.map .memory ∧
      List.Forall₂ (use.Effect (Iptables.rulesOf policy params) (.error .policyConflict))
        tables met := by
  cases use with
  | install => exact RuleChange.install.passMoments_inMemory _ _ tables machine
  | remove => exact RuleChange.remove.passMoments_inMemory _ _ tables machine
  | limit number limits => exact fun _ member => absurd member List.not_mem_nil

/-- What every use preserves in a table, compared with a table of the start, also when it is cut
short, holds at all times. -/
theorem moments_invariant {Kept : MemoryTable → MemoryTable → Prop} {params : DivertParams}
    (uses : List (Policy × BackendUse))
    (preserved : ∀ entry ∈ uses, ∀ result start before after, Kept start before →
      entry.2.Effect (Iptables.rulesOf entry.1 params) result before after → Kept start after)
    {starts tables : List MemoryTable} (held : List.Forall₂ Kept starts tables)
    (machine : Machine) :
    ∀ now ∈ moments uses (inMemory tables params, machine), ∃ met : List MemoryTable,
      now.1 = met.map .memory ∧ List.Forall₂ Kept starts met := by
  induction uses generalizing tables machine with
  | nil =>
    intro now member
    exact ⟨tables, by rw [List.mem_singleton.mp member]; rfl, held⟩
  | cons entry uses inductionHypothesis =>
    obtain ⟨policy, use⟩ := entry
    have preservedHere := preserved (policy, use) List.mem_cons_self
    intro now member
    rcases List.mem_append.mp member with here | later
    · rcases List.mem_cons.mp here with rfl | during
      · exact ⟨tables, rfl, held⟩
      · obtain ⟨met, same, effects⟩ := useMoments_effect policy use tables params machine now during
        exact ⟨met, same, forall₂_compose (preservedHere _) held effects⟩
    · obtain ⟨result, middle, reached, performed, effects⟩ :=
        perform_effect policy use tables params machine
      rw [performed] at later
      exact inductionHypothesis
        (fun entry present => preserved entry (List.mem_cons_of_mem _ present))
        (forall₂_compose (preservedHere result) held effects) reached now later

end LegacyBackend

end PacketDivert
