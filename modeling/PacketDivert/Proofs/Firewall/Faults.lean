import PacketDivert.Proofs.Firewall.Contents

namespace PacketDivert

namespace Attempt

variable {ε ε' σ α β : Type} {allowed : ε → Prop}

/-- An attempt all of whose faults are of a certain kind. -/
def FailsOnly (allowed : ε → Prop) (attempt : Attempt ε σ α) : Prop :=
  ∀ state fault, (attempt state).1 = .error fault → allowed fault

theorem failsOnly_pure (value : α) : FailsOnly allowed (pure value : Attempt ε σ α) :=
  fun _ _ failed => nomatch failed

theorem failsOnly_fail {fault : ε} (kind : allowed fault) :
    FailsOnly allowed (fail fault : Attempt ε σ α) := by
  intro state other failed
  cases failed
  exact kind

theorem failsOnly_ofExcept {result : Except ε α}
    (kind : ∀ fault, result = .error fault → allowed fault) :
    FailsOnly allowed (ofExcept result : Attempt ε σ α) :=
  fun _ => kind

theorem failsOnly_regardless (attempt : Attempt ε σ α) : FailsOnly allowed attempt.regardless :=
  fun _ _ failed => nomatch failed

theorem failsOnly_mapError {allowed : ε' → Prop} {change : ε → ε'}
    (kind : ∀ cause, allowed (change cause)) (attempt : Attempt ε σ α) :
    FailsOnly allowed (attempt.mapError change) := by
  intro state fault failed
  rw [mapError_run] at failed
  rcases tried : (attempt state).1 with cause | value
  · rw [tried] at failed
    cases failed
    exact kind cause
  · rw [tried] at failed
    exact nomatch failed

theorem failsOnly_bind {first : Attempt ε σ α} {next : α → Attempt ε σ β}
    (failsFirst : FailsOnly allowed first) (failsNext : ∀ value, FailsOnly allowed (next value)) :
    FailsOnly allowed (first >>= next) := by
  intro state fault failed
  rw [bind_run] at failed
  rcases tried : first state with ⟨cause | value, reached⟩
  · rw [tried] at failed
    cases failed
    exact failsFirst state fault (by rw [tried])
  · rw [tried] at failed
    exact failsNext value reached fault failed

end Attempt

open Attempt (FailsOnly failsOnly_bind failsOnly_fail failsOnly_mapError failsOnly_ofExcept
  failsOnly_pure failsOnly_regardless)

/-- Errors that a backend answers with: the policy cannot be enforced, a tool could not be started,
or a tool failed. -/
inductive Error.OfRules : Error → Prop where
  | policyConflict : OfRules .policyConflict
  | setup (message : String) : OfRules (.setup message)
  | nftables (failure : ToolFailure) : OfRules (.nftables failure)
  | iptables (failure : ToolFailure) : OfRules (.iptables failure)

theorem MemoryTable.enter_failsOnly (operation : TableOperation) :
    FailsOnly Error.OfRules (MemoryTable.enter operation) := by
  intro table fault failed
  unfold MemoryTable.enter at failed
  split at failed
  · cases failed
    exact .iptables _
  · exact nomatch failed

namespace ToolTable

theorem run_failsOnly (table : ToolTable) (operation : TableOperation) (rule : Iptables.Rule) :
    FailsOnly Error.OfRules (table.run operation rule) :=
  failsOnly_mapError (fun _ => .setup _) _

theorem contains_failsOnly (table : ToolTable) (rule : Iptables.Rule) :
    FailsOnly Error.OfRules (table.contains rule) := by
  refine failsOnly_bind (table.run_failsOnly .contains rule) fun output => ?_
  have failed : FailsOnly Error.OfRules
      (.fail (table.failure .contains rule output) : Attempt Error Machine Bool) :=
    failsOnly_fail (.iptables _)
  cases output.status with
  | exited code =>
    dsimp only
    split
    · exact failsOnly_pure true
    · split
      · exact failsOnly_pure false
      · exact failed
  | killed signal dumped => exact failed

theorem change_failsOnly (table : ToolTable) (operation : TableOperation) (rule : Iptables.Rule) :
    FailsOnly Error.OfRules (table.change operation rule) := by
  refine failsOnly_bind (table.run_failsOnly operation rule) fun output => ?_
  split
  · exact failsOnly_pure ()
  · exact failsOnly_fail (.iptables _)

end ToolTable

namespace RuleTable

theorem contains_failsOnly (rule : Iptables.Rule) :
    FailsOnly Error.OfRules (contains rule) := by
  rintro ⟨table | table, machine⟩
  · have answered : FailsOnly Error.OfRules (MemoryTable.contains rule) :=
      failsOnly_bind (MemoryTable.enter_failsOnly .contains) fun _ _ _ failed => nomatch failed
    exact answered table
  · exact table.contains_failsOnly rule machine

theorem append_failsOnly (rule : Iptables.Rule) : FailsOnly Error.OfRules (append rule) := by
  rintro ⟨table | table, machine⟩
  · have appended : FailsOnly Error.OfRules (MemoryTable.append rule) :=
      failsOnly_bind (MemoryTable.enter_failsOnly .append) fun _ _ _ failed => nomatch failed
    exact appended table
  · exact table.change_failsOnly .append rule machine

theorem delete_failsOnly (rule : Iptables.Rule) : FailsOnly Error.OfRules (delete rule) := by
  rintro ⟨table | table, machine⟩
  · have deleted : FailsOnly Error.OfRules (MemoryTable.delete rule) := by
      refine failsOnly_bind (MemoryTable.enter_failsOnly .delete) fun _ table fault failed => ?_
      split at failed
      · exact nomatch failed
      · cases failed
        exact .iptables _
    exact deleted table
  · exact table.change_failsOnly .delete rule machine

theorem ensurePresent_failsOnly (rule : Iptables.Rule) :
    FailsOnly Error.OfRules (ensurePresent rule) := by
  refine failsOnly_bind (contains_failsOnly rule) fun held => ?_
  cases held with
  | false => exact append_failsOnly rule
  | true => exact failsOnly_pure ()

theorem ensureAbsent_failsOnly (rule : Iptables.Rule) :
    FailsOnly Error.OfRules (ensureAbsent rule) := by
  refine failsOnly_bind (contains_failsOnly rule) fun held => ?_
  cases held with
  | false => exact failsOnly_pure ()
  | true => exact delete_failsOnly rule

/-- A round over tables fails only as the act does in one of them. -/
theorem forEach_failsOnly {allowed : Error → Prop}
    {act : Attempt Error (RuleTable × Machine) Unit} {tables : List RuleTable}
    (fails : ∀ table ∈ tables, ∀ machine fault,
      (act (table, machine)).1 = .error fault → allowed fault)
    (machine : Machine) (fault : Error)
    (failed : (forEach act tables machine).1 = .error fault) : allowed fault := by
  induction tables generalizing machine with
  | nil => exact nomatch failed
  | cons table tables inductionHypothesis =>
    obtain ⟨failsFirst, failsRest⟩ := List.forall_mem_cons.mp fails
    rcases acted : act (table, machine) with ⟨cause | done, after, reached⟩
    · simp only [forEach, acted] at failed
      exact failsFirst machine fault (by rw [acted]; exact failed)
    · simp only [forEach, acted] at failed
      exact inductionHypothesis failsRest reached failed

end RuleTable

namespace LegacyBackend

theorem forRules_failsOnly {allowed : Error → Prop}
    {act : Iptables.Rule → Attempt Error (RuleTable × Machine) Unit}
    (fails : ∀ rule, FailsOnly allowed (act rule)) (rules : List Iptables.Rule) :
    FailsOnly allowed (forRules act rules) := by
  induction rules with
  | nil => exact failsOnly_pure ()
  | cons rule rules inductionHypothesis =>
    refine failsOnly_bind (fun state => ?_) fun _ => inductionHypothesis
    exact RuleTable.forEach_failsOnly (fun table _ machine => fails rule (table, machine)) state.2

theorem apply_failsOnly {act : Iptables.Rule → Attempt Error (RuleTable × Machine) Unit}
    (fails : ∀ rule, FailsOnly Error.OfRules (act rule)) (policy : Policy) :
    FailsOnly Error.OfRules (apply act policy) := by
  rintro ⟨backend, machine⟩ fault failed
  cases listed : Iptables.divertRules policy backend.params with
  | error conflict =>
    simp only [apply, listed, Except.error.injEq] at failed
    subst failed
    unfold Iptables.divertRules Iptables.divertClauses at listed
    split at listed
    · cases listed
    · cases listed
      exact .policyConflict
  | ok rules =>
    simp only [apply, listed] at failed
    exact forRules_failsOnly fails rules (backend.tables, machine) fault failed

end LegacyBackend

namespace NftBackend

theorem run_failsOnly (backend : NftBackend) (arguments : List String) (input : Option String) :
    FailsOnly Error.OfRules (backend.run arguments input) := by
  refine failsOnly_bind (failsOnly_mapError (fun _ => .setup _) _) fun output => ?_
  split
  · exact failsOnly_pure ()
  · exact failsOnly_fail (.nftables _)

theorem divertRuleset_failsOnly (policy : Policy) (params : DivertParams) (fault : Error)
    (failed : Nftables.divertRuleset policy params = .error fault) : fault.OfRules := by
  unfold Nftables.divertRuleset at failed
  split at failed
  · exact nomatch failed
  · cases failed
    exact .policyConflict

theorem install_failsOnly (backend : NftBackend) (policy : Policy) :
    FailsOnly Error.OfRules (backend.install policy) :=
  failsOnly_bind (failsOnly_ofExcept (divertRuleset_failsOnly policy backend.params)) fun _ =>
    failsOnly_bind (failsOnly_regardless _) fun _ => backend.run_failsOnly _ _

theorem remove_failsOnly (backend : NftBackend) (policy : Policy) :
    FailsOnly Error.OfRules (backend.remove policy) :=
  failsOnly_bind (failsOnly_ofExcept (divertRuleset_failsOnly policy backend.params)) fun _ =>
    backend.run_failsOnly _ _

end NftBackend

namespace RuleBackend

theorem install_failsOnly (policy : Policy) : FailsOnly Error.OfRules (install policy) := by
  rintro ⟨backend | backend, machine⟩
  · exact backend.install_failsOnly policy machine
  · exact LegacyBackend.apply_failsOnly RuleTable.ensurePresent_failsOnly policy (backend, machine)

theorem remove_failsOnly (policy : Policy) : FailsOnly Error.OfRules (remove policy) := by
  rintro ⟨backend | backend, machine⟩
  · exact backend.remove_failsOnly policy machine
  · exact LegacyBackend.apply_failsOnly RuleTable.ensureAbsent_failsOnly policy (backend, machine)

end RuleBackend

open Iptables (Rule)

theorem MemoryTable.delete_refused {rule : Rule} {table : MemoryTable} (held : rule ∈ table.rules)
    {fault : Error} (failed : (delete rule table).1 = .error fault) : fault = refusal .delete := by
  rcases enter_cases .delete table with ⟨limits, entered⟩ | refused
  · simp [delete, bind, entered, held] at failed
  · simp only [delete, bind, refused] at failed
    exact (Except.error.inj failed).symm

namespace RuleTable

/-- An act that fails in a table kept in memory only where a call is refused. -/
def FailsRefused (act : Attempt Error (RuleTable × Machine) Unit) : Prop :=
  ∀ (table : MemoryTable) (machine : Machine) (fault : Error),
    (act (.memory table, machine)).1 = .error fault →
      ∃ operation, fault = MemoryTable.refusal operation

theorem ensureAbsent_failsRefused (rule : Rule) : FailsRefused (ensureAbsent rule) := by
  intro table machine fault failed
  rw [ensureAbsent_run] at failed
  rcases MemoryTable.contains_cases rule table with ⟨limits, asked⟩ | refused
  · by_cases held : rule ∈ table.rules
    · simp only [contains, callMemory, asked, held, decide_true, ↓reduceIte] at failed
      exact ⟨.delete, @MemoryTable.delete_refused rule { table with limits } held fault failed⟩
    · simp [contains, callMemory, asked, held] at failed
  · simp only [contains, callMemory, refused] at failed
    exact ⟨.contains, (Except.error.inj failed).symm⟩

end RuleTable

namespace LegacyBackend

theorem forRules_refused {act : Rule → Attempt Error (RuleTable × Machine) Unit}
    {change : Rule → List Rule → List Rule}
    (makes : ∀ rule, RuleTable.Makes (act rule) (change rule))
    (fails : ∀ rule, RuleTable.FailsRefused (act rule)) (rules : List Rule)
    (tables : List MemoryTable) (machine : Machine) (fault : Error)
    (failed : (forRules act rules (tables.map .memory, machine)).1 = .error fault) :
    ∃ operation, fault = MemoryTable.refusal operation := by
  induction rules generalizing tables machine with
  | nil => exact nomatch failed
  | cons rule rules inductionHypothesis =>
    obtain ⟨result, middle, reached, round, _⟩ :=
      RuleTable.forEach_makes (makes rule) tables machine
    rw [forRules_cons, round] at failed
    cases result with
    | error cause =>
      have failsEach : ∀ table ∈ tables.map RuleTable.memory, ∀ machine fault,
          (act rule (table, machine)).1 = .error fault →
            ∃ operation, fault = MemoryTable.refusal operation := by
        intro table member
        obtain ⟨kept, _, rfl⟩ := List.mem_map.mp member
        exact fails rule kept
      exact RuleTable.forEach_failsOnly failsEach machine fault (by rw [round]; exact failed)
    | ok done => exact inductionHypothesis middle reached failed

/-- A removal fails only where a call to a table is refused. -/
theorem remove_refused {policy : Policy} {params : DivertParams} {rules : List Rule}
    (listed : Iptables.divertRules policy params = .ok rules) (tables : List MemoryTable)
    (machine : Machine) (fault : Error)
    (failed : (remove policy (inMemory tables params, machine)).1 = .error fault) :
    ∃ operation, fault = MemoryTable.refusal operation := by
  simp only [remove, apply, inMemory, listed] at failed
  exact forRules_refused RuleTable.ensureAbsent_makes RuleTable.ensureAbsent_failsRefused rules
    tables machine fault failed

end LegacyBackend

end PacketDivert
