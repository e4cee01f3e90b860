import PacketDivert.Proofs.Firewall.Contents
import PacketDivert.Proofs.Rules.IptablesClauses
import Mathlib.Data.List.Count

namespace PacketDivert

open Iptables (Rule)

/-- The rules that a table kept in memory holds. The contents of other tables are not known. -/
def RuleTable.held : RuleTable → List Rule
  | .memory table => table.rules
  | .tool _ => []

def LegacyBackend.contents (backend : LegacyBackend) : List (List Rule) :=
  backend.tables.map RuleTable.held

theorem LegacyBackend.contents_inMemory (tables : List MemoryTable) (params : DivertParams) :
    (inMemory tables params).contents = tables.map (·.rules) := by
  simp [contents, inMemory, RuleTable.held]

/-- The divert rules among the contents of a table, in the order that they stand in. -/
def divertPart (rules contents : List Rule) : List Rule := contents.filter (· ∈ rules)

/-- Marked connections are settled before they can be queued, in every chain that is diverted. -/
def MarksFirst (policy : Policy) (params : DivertParams) (contents : List Rule) : Prop :=
  ∀ hook ∈ policy.hooks, ∀ clause ∈ Iptables.markClauses policy params hook,
    [clause.rule, (Iptables.queueClause params hook).rule].Sublist contents

/-- A rule that queues is there only behind all rules that settle marked connections. -/
def QueueGuarded (policy : Policy) (params : DivertParams) (contents : List Rule) : Prop :=
  ∀ hook ∈ policy.hooks, (Iptables.queueClause params hook).rule ∈ contents →
    ∀ clause ∈ Iptables.markClauses policy params hook,
      [clause.rule, (Iptables.queueClause params hook).rule].Sublist contents

section

variable {policy : Policy} {params : DivertParams} {rules contents : List Rule}

/-- New rules of a list stand behind those that are there. -/
theorem divertPart_append_new {added : List Rule} (ours : ∀ rule ∈ added, rule ∈ rules) :
    divertPart rules (contents ++ added.filter (· ∉ contents)) =
      divertPart rules contents ++ added.filter (· ∉ divertPart rules contents) := by
  unfold divertPart
  rw [List.filter_append, List.filter_filter]
  congr 1
  apply List.filter_congr
  intro rule member
  simp [ours rule member]

/-- What is missing behind the first rules of a list completes it. -/
theorem append_new_eq {front : List Rule} (distinct : rules.Nodup) (leading : front <+: rules) :
    front ++ rules.filter (· ∉ front) = rules := by
  obtain ⟨rest, rfl⟩ := leading
  have apart := (List.nodup_append.mp distinct).2.2
  have noneLeft : front.filter (· ∉ front) = [] := by
    apply List.filter_eq_nil_iff.mpr
    intro rule member
    simp [member]
  have allLeft : rest.filter (· ∉ front) = rest := by
    apply List.filter_eq_self.mpr
    intro rule member
    have notHeld : rule ∉ front := fun held => apart rule held rule member rfl
    simp [notHeld]
  rw [List.filter_append, noneLeft, allLeft, List.nil_append]

/-- First rules of a list, followed by what is missing of some first rules, are first rules. -/
theorem append_new_prefix {front added : List Rule} (distinct : rules.Nodup)
    (leading : front <+: rules) (first : added <+: rules) :
    front ++ added.filter (· ∉ front) <+: rules := by
  rcases List.prefix_or_prefix_of_prefix leading first with shorter | longer
  · rw [append_new_eq (first.sublist.nodup distinct) shorter]
    exact first
  · have noneLeft : added.filter (· ∉ front) = [] := by
      apply List.filter_eq_nil_iff.mpr
      intro rule member
      simp [longer.subset member]
    rw [noneLeft, List.append_nil]
    exact leading

/-- A complete install leaves the divert rules in their order if and only if those that were there
are the first ones. -/
theorem divertPart_install_iff (distinct : rules.Nodup) :
    divertPart rules (contents ++ rules.filter (· ∉ contents)) = rules ↔
      divertPart rules contents <+: rules := by
  rw [divertPart_append_new fun _ member => member]
  constructor
  · intro ordered
    exact ⟨_, ordered⟩
  · exact append_new_eq distinct

theorem pair_sublist_of_append {first second : Rule} {front added : List Rule}
    (pair : [first, second].Sublist (front ++ added)) (absent : second ∉ added) :
    [first, second].Sublist front := by
  obtain ⟨early, late, split, inFront, inAdded⟩ := List.sublist_append_iff.mp pair
  have secondEarly : second ∉ late := fun member => absent (inAdded.subset member)
  have noLate : late = [] := by
    rcases early with _ | ⟨head, _ | ⟨next, rest⟩⟩
    · rw [List.nil_append] at split
      simp [← split] at secondEarly
    · obtain ⟨_, rfl⟩ := List.cons.inj split
      simp at secondEarly
    · simp at split
      exact split.2.2.2
  rw [noLate, List.append_nil] at split
  rw [split]
  exact inFront

/-- A complete install leaves marked connections settled first if and only if no rule that queues
stood without those that settle. -/
theorem marksFirst_install_iff (listed : Iptables.divertRules policy params = .ok rules) :
    MarksFirst policy params (contents ++ rules.filter (· ∉ contents)) ↔
      QueueGuarded policy params contents := by
  constructor
  · intro settled hook hooked queued clause settles
    have ordered := settled hook hooked clause settles
    exact pair_sublist_of_append ordered (by simp [queued])
  · intro guarded hook hooked clause settles
    by_cases queued : (Iptables.queueClause params hook).rule ∈ contents
    · exact (guarded hook hooked queued clause settles).trans (List.sublist_append_left _ _)
    · have ordered := Iptables.mark_mem_divertRules listed hooked settles
      have queueNew : (Iptables.queueClause params hook).rule ∈ rules.filter (· ∉ contents) := by
        have ours := ordered.subset (List.mem_cons_of_mem _ (List.mem_singleton_self _))
        simp [ours, queued]
      by_cases held : clause.rule ∈ contents
      · exact (List.singleton_sublist.mpr held).append (List.singleton_sublist.mpr queueNew)
      · have bothNew := ordered.filter (· ∉ contents)
        rw [List.filter_eq_self.mpr (by simp [held, queued])] at bothNew
        exact bothNew.trans (List.sublist_append_right _ _)

end

/-! Runs in which no install is made on what an unfinished removal has left. -/

/-- Whether a removal is left unfinished after a use: one that failed, until one succeeds. -/
def BackendUse.leavesUnfinished (unfinished : Bool) (result : Except Error Unit) :
    BackendUse → Bool
  | .remove => match result with
    | .ok () => false
    | .error _ => true
  | _ => unfinished

/-- No install is made while a removal is left unfinished. -/
def Orderly (policy : Policy) :
    (unfinished : Bool) → List BackendUse → LegacyBackend × Machine → Prop
  | _, [], _ => True
  | unfinished, use :: uses, state =>
    (use = .install → unfinished = false) ∧
    Orderly policy (use.leavesUnfinished unfinished (use.perform policy state).1) uses
      (use.perform policy state).2

/-- What holds of a table in an orderly run: no divert rule stands there twice, and they are the
first ones of their list, unless a removal is left unfinished. -/
structure Settled (rules : List Rule) (unfinished : Bool) (table : MemoryTable) : Prop where
  distinct : (divertPart rules table.rules).Nodup
  leading : unfinished = false → divertPart rules table.rules <+: rules

theorem Settled.of_leading {rules : List Rule} {unfinished : Bool} {table : MemoryTable}
    (distinct : rules.Nodup) (leading : divertPart rules table.rules <+: rules) :
    Settled rules unfinished table :=
  ⟨leading.sublist.nodup distinct, fun _ => leading⟩

/-- A complete removal leaves no divert rule where none stood twice. -/
theorem divertPart_diff {rules contents : List Rule} (single : (divertPart rules contents).Nodup) :
    divertPart rules (contents.diff rules) = [] := by
  apply List.filter_eq_nil_iff.mpr
  intro rule kept ours
  have ours : rule ∈ rules := of_decide_eq_true ours
  have once : contents.count rule ≤ 1 := by
    have counted := List.nodup_iff_count_le_one.mp single rule
    rwa [divertPart, List.count_filter (by simp [ours])] at counted
  have listed : 0 < rules.count rule := List.count_pos_iff.mpr ours
  have left : 0 < (contents.diff rules).count rule := List.count_pos_iff.mpr kept
  rw [List.count_diff] at left
  omega

theorem Settled.use {rules : List Rule} (distinct : rules.Nodup) {unfinished : Bool}
    {use : BackendUse} (allowed : use = .install → unfinished = false)
    {result : Except Error Unit} {before after : MemoryTable}
    (effect : use.Effect rules result before after) (settled : Settled rules unfinished before) :
    Settled rules (use.leavesUnfinished unfinished result) after := by
  cases use with
  | install =>
    obtain ⟨count, reached, _⟩ := Progress.contents effect
    have first : rules.take count <+: rules := List.take_prefix count rules
    rw [changeAll_appendNew (first.sublist.nodup distinct)] at reached
    apply Settled.of_leading distinct
    rw [reached, divertPart_append_new fun _ member => first.subset member]
    exact append_new_prefix distinct (settled.leading (allowed rfl)) first
  | remove =>
    obtain ⟨count, reached, complete⟩ := Progress.contents effect
    rw [changeAll_erase] at reached
    constructor
    · rw [reached]
      exact ((List.diff_sublist _ _).filter _).nodup settled.distinct
    · intro finished
      cases result with
      | error fault => cases finished
      | ok done =>
        rw [List.take_of_length_le (complete rfl)] at reached
        rw [reached, divertPart_diff settled.distinct]
        exact List.nil_prefix
  | limit number limits =>
    obtain ⟨_, same⟩ := effect
    exact ⟨same ▸ settled.distinct, same ▸ settled.leading⟩

namespace LegacyBackend

/-- An orderly run settles every table, whatever calls were refused in it. -/
theorem settled_of_orderly {policy : Policy} {params : DivertParams} {rules : List Rule}
    (listed : Iptables.divertRules policy params = .ok rules) {unfinished : Bool}
    {uses : List BackendUse} {last : BackendUse} {tables : List MemoryTable} {machine : Machine}
    (orderly : Orderly policy unfinished (uses ++ [last]) (inMemory tables params, machine))
    (settled : ∀ table ∈ tables, Settled rules unfinished table) :
    ∃ left after reached,
      afterUses (uses.map (policy, ·)) (inMemory tables params, machine) =
        (inMemory after params, reached) ∧
      (last = .install → left = false) ∧ ∀ table ∈ after, Settled rules left table := by
  induction uses generalizing unfinished tables machine with
  | nil => exact ⟨unfinished, tables, machine, rfl, orderly.1, settled⟩
  | cons use uses inductionHypothesis =>
    obtain ⟨allowed, orderlyRest⟩ := orderly
    obtain ⟨result, after, reached, performed, effects⟩ :=
      perform_effect policy use tables params machine
    rw [performed] at orderlyRest
    rw [Iptables.rulesOf_eq listed] at effects
    have settledThen : ∀ table ∈ after,
        Settled rules (use.leavesUnfinished unfinished result) table :=
      forall₂_all (fun _ _ effect before =>
        before.use (Iptables.nodup_divertRules listed) allowed effect) effects settled
    simp only [List.map_cons, afterUses, performed]
    exact inductionHypothesis orderlyRest settledThen

end LegacyBackend

/-- How the order of the divert rules behind a complete install is decided by what it found. They
stand as they are listed if those that were there are the first ones of the list, and marked
connections are settled first if no rule that queues was there without those that settle. -/
def OrderDecided (policy : Policy) (params : DivertParams) (rules found holds : List Rule) : Prop :=
  (divertPart rules holds = rules ↔ divertPart rules found <+: rules) ∧
    (MarksFirst policy params holds ↔ QueueGuarded policy params found)

theorem LegacyBackend.install_orderDecided {policy : Policy} {params : DivertParams}
    {rules : List Rule} (listed : Iptables.divertRules policy params = .ok rules)
    {tables : List MemoryTable} {machine : Machine} {after : LegacyBackend × Machine}
    (installed : install policy (inMemory tables params, machine) = (.ok (), after)) :
    List.Forall₂ (OrderDecided policy params rules) (inMemory tables params).contents
      after.1.contents := by
  obtain ⟨result, left, reached, performed, effects⟩ :=
    perform_effect policy .install tables params machine
  obtain ⟨rfl, rfl⟩ : result = .ok () ∧ (inMemory left params, reached) = after := by
    simpa using performed.symm.trans installed
  rw [contents_inMemory, contents_inMemory, List.forall₂_map_left_iff, List.forall₂_map_right_iff]
  refine effects.imp fun found holds progress => ?_
  have complete : holds.rules = found.rules ++ rules.filter (· ∉ found.rules) := by
    rw [Iptables.rulesOf_eq listed] at progress
    rw [← changeAll_appendNew (Iptables.nodup_divertRules listed)]
    exact Progress.contents_of_ok progress
  unfold OrderDecided
  rw [complete]
  exact ⟨divertPart_install_iff (Iptables.nodup_divertRules listed), marksFirst_install_iff listed⟩

theorem marksFirst_of_ordered {policy : Policy} {params : DivertParams} {rules holds : List Rule}
    (listed : Iptables.divertRules policy params = .ok rules)
    (ordered : divertPart rules holds = rules) : MarksFirst policy params holds := by
  intro hook hooked clause settles
  have inRules := Iptables.mark_mem_divertRules listed hooked settles
  rw [← ordered] at inRules
  exact inRules.trans List.filter_sublist

/-- The order of the divert rules after an install, in every run of installs and removals on tables
that held none of them, with any calls to the tables refused, is decided by what the install found
in each table. It is the order of the list, with marked connections settled before anything is
queued, if no install of the run is made on what an unfinished removal has left. -/
theorem installed_order {policy : Policy} {params : DivertParams} {rules : List Rule}
    (listed : Iptables.divertRules policy params = .ok rules) {tables : List MemoryTable}
    (fresh : ∀ table ∈ tables, ∀ rule ∈ rules, rule ∉ table.rules) (machine : Machine)
    (uses : List BackendUse) {after : LegacyBackend × Machine} :
    let start := (LegacyBackend.inMemory tables params, machine)
    let before := LegacyBackend.afterUses (uses.map (policy, ·)) start
    LegacyBackend.install policy before = (.ok (), after) →
      List.Forall₂ (OrderDecided policy params rules) before.1.contents after.1.contents ∧
      (Orderly policy false (uses ++ [.install]) start →
        ∀ holds ∈ after.1.contents,
          divertPart rules holds = rules ∧ MarksFirst policy params holds) := by
  intro start before installed
  have decided : List.Forall₂ (OrderDecided policy params rules) before.1.contents
      after.1.contents := by
    obtain ⟨found, reached, run⟩ :=
      LegacyBackend.afterUses_inMemory (uses.map (policy, ·)) tables params machine
    have same : before = (LegacyBackend.inMemory found params, reached) := run
    rw [same] at installed ⊢
    exact LegacyBackend.install_orderDecided listed installed
  refine ⟨decided, fun orderly => ?_⟩
  have clean : ∀ table ∈ tables, Settled rules false table := by
    intro table member
    have none : divertPart rules table.rules = [] :=
      List.filter_eq_nil_iff.mpr fun rule held ours =>
        fresh table member rule (of_decide_eq_true ours) held
    exact .of_leading (Iptables.nodup_divertRules listed) (none ▸ List.nil_prefix)
  obtain ⟨left, reachedTables, reached, run, finished, settled⟩ :=
    LegacyBackend.settled_of_orderly listed orderly clean
  have leading : ∀ found ∈ before.1.contents, divertPart rules found <+: rules := by
    change ∀ found ∈ (LegacyBackend.afterUses _ start).1.contents, _
    rw [run, LegacyBackend.contents_inMemory]
    intro found member
    obtain ⟨table, present, rfl⟩ := List.mem_map.mp member
    exact (settled table present).leading (finished rfl)
  refine forall₂_all (fun found holds decision prefixed => ?_) decided leading
  have ordered := decision.1.mpr prefixed
  exact ⟨ordered, marksFirst_of_ordered listed ordered⟩

/-- A machine on which no tool can be started. -/
def Machine.bare : Machine := { tools := { answer := fun _ _ => .error .notFound } }

theorem LegacyBackend.install_of_isOk {policy : Policy} {state : LegacyBackend × Machine}
    (succeeded : (install policy state).1.isOk = true) :
    install policy state = (.ok (), (install policy state).2) :=
  Attempt.run_of_isOk succeeded

/-- A run whose install is cut short at the second table. -/
def refusedInstall : List BackendUse :=
  [.limit 1 { append := some 1 }, .install, .limit 1 {}]

/-- Two tables, one with a rule of its own. -/
def twoTables : List MemoryTable :=
  [⟨"ipv4", [⟨"filter", "FORWARD", ["-j", "LOG"]⟩], {}⟩, ⟨"ipv6", [], {}⟩]

theorem installed_order_after_refused_install :
    ∃ after, LegacyBackend.install ⟨false, true⟩
        (LegacyBackend.afterUses (refusedInstall.map (⟨false, true⟩, ·))
          (.inMemory twoTables .usual, .bare)) = (.ok (), after) ∧
      ∀ holds ∈ after.1.contents,
        divertPart (Iptables.rulesOf ⟨false, true⟩ .usual) holds =
          Iptables.rulesOf ⟨false, true⟩ .usual ∧
        MarksFirst ⟨false, true⟩ .usual holds := by
  have listed : Iptables.divertRules ⟨false, true⟩ .usual =
      .ok (Iptables.rulesOf ⟨false, true⟩ .usual) := rfl
  have fresh : ∀ table ∈ twoTables,
      ∀ rule ∈ Iptables.rulesOf ⟨false, true⟩ .usual, rule ∉ table.rules := by decide +kernel
  have succeeded : (LegacyBackend.install ⟨false, true⟩
      (LegacyBackend.afterUses (refusedInstall.map (⟨false, true⟩, ·))
        (.inMemory twoTables .usual, .bare))).1.isOk = true := by decide +kernel
  have orderly : Orderly ⟨false, true⟩ false (refusedInstall ++ [.install])
      (.inMemory twoTables .usual, .bare) :=
    ⟨nofun, fun _ => rfl, nofun, fun _ => rfl, trivial⟩
  have order := installed_order listed fresh .bare refusedInstall
    (LegacyBackend.install_of_isOk succeeded)
  exact ⟨_, LegacyBackend.install_of_isOk succeeded, order.2 orderly⟩

/-- A run in which a removal is cut short after its first deletion. -/
def interruptedRemoval : List BackendUse :=
  [.install, .limit 0 { delete := some 1 }, .remove, .limit 0 {}]

/-- An install on what an interrupted removal has left succeeds, but lets connections be queued
before their mark is looked at. -/
theorem interrupted_removal_breaks_order :
    ∃ after, LegacyBackend.install ⟨false, false⟩
        (LegacyBackend.afterUses (interruptedRemoval.map (⟨false, false⟩, ·))
          (.inMemory [⟨"ipv4", [], {}⟩] .usual, .bare)) = (.ok (), after) ∧
      after.1.contents = [[
        ⟨"filter", "FORWARD", ["-m", "connmark", "--mark", "1002", "-j", "DROP"]⟩,
        ⟨"filter", "FORWARD", ["-j", "NFQUEUE", "--queue-num", "100", "--queue-bypass"]⟩,
        ⟨"filter", "FORWARD", ["-m", "connmark", "--mark", "1001", "-j", "ACCEPT"]⟩]] ∧
      ¬ ∀ holds ∈ after.1.contents, MarksFirst ⟨false, false⟩ .usual holds := by
  have succeeded : (LegacyBackend.install ⟨false, false⟩
      (LegacyBackend.afterUses (interruptedRemoval.map (⟨false, false⟩, ·))
        (.inMemory [⟨"ipv4", [], {}⟩] .usual, .bare))).1.isOk = true := by decide +kernel
  have left : (LegacyBackend.install ⟨false, false⟩
      (LegacyBackend.afterUses (interruptedRemoval.map (⟨false, false⟩, ·))
        (.inMemory [⟨"ipv4", [], {}⟩] .usual, .bare))).2.1.contents = [[
      ⟨"filter", "FORWARD", ["-m", "connmark", "--mark", "1002", "-j", "DROP"]⟩,
      ⟨"filter", "FORWARD", ["-j", "NFQUEUE", "--queue-num", "100", "--queue-bypass"]⟩,
      ⟨"filter", "FORWARD", ["-m", "connmark", "--mark", "1001", "-j", "ACCEPT"]⟩]] := by
    decide +kernel
  refine ⟨_, LegacyBackend.install_of_isOk succeeded, left, fun settled => ?_⟩
  rw [left] at settled
  have accepted := settled _ (List.mem_singleton_self _) .forward (by decide)
    ⟨.forward, [.mark 1001], .accept⟩ (by decide)
  revert accepted
  decide +kernel

end PacketDivert
