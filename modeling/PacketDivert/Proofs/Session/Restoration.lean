import PacketDivert.Proofs.Firewall.RuleOrder
import PacketDivert.Proofs.Session.RuleLifecycle
import PacketDivert.Session.Bench

namespace PacketDivert

open Iptables (Rule)

/-- A table that is as it was, apart from the calls that it will refuse. -/
def MemoryTable.Restored (start table : MemoryTable) : Prop :=
  table.family = start.family ∧ table.rules = start.rules

namespace RuleState

/-- What installs have put behind the contents of a table, by what is noted of them: nothing, some
first ones of the rules, or all. -/
def Leaves (rules front : List Rule) : RuleState → Prop
  | .absent => front = []
  | .attempted => front <+: rules
  | .installed => front = rules

theorem Leaves.leading {rules front : List Rule} {state : RuleState}
    (leaves : state.Leaves rules front) : front <+: rules := by
  cases state with
  | absent => exact leaves ▸ List.nil_prefix
  | attempted => exact leaves
  | installed => exact leaves ▸ List.prefix_rfl

end RuleState

/-- A table that held none of some rules, and to which nothing was done but installs. -/
structure Extended (rules : List Rule) (state : RuleState) (start table : MemoryTable) : Prop where
  family : table.family = start.family
  apart : ∀ rule ∈ rules, rule ∉ start.rules
  contents : ∃ front, state.Leaves rules front ∧ table.rules = start.rules ++ front

/-- First ones of some rules, behind contents that hold none of them, are taken out with them. -/
theorem append_prefix_diff {contents front rules : List Rule} (leading : front <+: rules)
    (apart : ∀ rule ∈ rules, rule ∉ contents) : (contents ++ front).diff rules = contents := by
  induction rules generalizing front with
  | nil =>
    rw [List.prefix_nil.mp leading, List.append_nil, List.diff_nil]
  | cons rule rules inductionHypothesis =>
    obtain ⟨absent, apartRest⟩ := List.forall_mem_cons.mp apart
    rw [List.diff_cons, List.erase_append_right _ absent]
    cases front with
    | nil => exact inductionHypothesis List.nil_prefix apartRest
    | cons head front =>
      obtain ⟨rfl, leadingRest⟩ := List.cons_prefix_cons.mp leading
      rw [List.erase_cons_head]
      exact inductionHypothesis leadingRest apartRest

namespace Extended

variable {rules : List Rule} {state : RuleState} {start before after : MemoryTable}

theorem opened (apart : ∀ rule ∈ rules, rule ∉ start.rules) :
    Extended rules .absent start start where
  family := rfl
  apart := apart
  contents := ⟨[], rfl, (List.append_nil _).symm⟩

theorem restored_of_absent (extended : Extended rules .absent start after) :
    start.Restored after := by
  obtain ⟨front, none, contents⟩ := extended.contents
  rw [none, List.append_nil] at contents
  exact ⟨extended.family, contents⟩

theorem kept (extended : Extended rules state start before) (same : before.Restored after) :
    Extended rules state start after where
  family := same.1.trans extended.family
  apart := extended.apart
  contents := same.2 ▸ extended.contents

/-- An install goes on where the last one stopped. -/
theorem install (extended : Extended rules state start before) (distinct : rules.Nodup)
    {result : Except Error Unit} (progress : Progress appendNew rules result before after) :
    Extended rules (.noted result) start after where
  family := progress.family.trans extended.family
  apart := extended.apart
  contents := by
    obtain ⟨front, leaves, found⟩ := extended.contents
    obtain ⟨count, reached, complete⟩ := progress.contents
    have first : rules.take count <+: rules := List.take_prefix count rules
    -- What the table held at the start hides none of the rules, so only those left behind count.
    have missing : (rules.take count).filter (· ∉ before.rules) =
        (rules.take count).filter (· ∉ front) := by
      apply List.filter_congr
      intro rule member
      simp [found, extended.apart rule (first.subset member)]
    refine ⟨front ++ (rules.take count).filter (· ∉ front), ?_, ?_⟩
    · cases result with
      | ok done =>
        rw [List.take_of_length_le (complete rfl)]
        exact append_new_eq distinct leaves.leading
      | error fault => exact append_new_prefix distinct leaves.leading first
    · rw [reached, changeAll_appendNew (first.sublist.nodup distinct), missing, found,
        List.append_assoc]

/-- A complete removal undoes all installs. -/
theorem remove (extended : Extended rules state start before)
    (progress : Progress (fun rule contents => contents.erase rule) rules (.ok ()) before after) :
    start.Restored after := by
  obtain ⟨front, leaves, found⟩ := extended.contents
  have reached := progress.contents_of_ok
  rw [changeAll_erase, found, append_prefix_diff leaves.leading extended.apart] at reached
  exact ⟨progress.family.trans extended.family, reached⟩

end Extended

namespace RuleBackend

variable {policy : Policy} {params : DivertParams} {rules : List Rule}

theorem install_inMemory (listed : Iptables.divertRules policy params = .ok rules)
    (tables : List MemoryTable) (machine : Machine) :
    ∃ result after reached,
      install policy (.legacy (.inMemory tables params), machine) =
        (result, .legacy (.inMemory after params), reached) ∧
      List.Forall₂ (Progress appendNew rules result) tables after := by
  obtain ⟨result, after, reached, installed, progress⟩ :=
    LegacyBackend.apply_progress RuleTable.ensurePresent_makes policy tables params machine
  rw [Iptables.rulesOf_eq listed] at progress
  exact ⟨result, after, reached, by simp only [install, LegacyBackend.install, installed], progress⟩

theorem remove_inMemory (listed : Iptables.divertRules policy params = .ok rules)
    (tables : List MemoryTable) (machine : Machine) :
    ∃ result after reached,
      remove policy (.legacy (.inMemory tables params), machine) =
        (result, .legacy (.inMemory after params), reached) ∧
      (result = .ok () ∨ ∃ operation, result = .error (MemoryTable.refusal operation)) ∧
      List.Forall₂ (Progress (fun rule contents => contents.erase rule) rules result)
        tables after := by
  obtain ⟨result, after, reached, removed, progress⟩ :=
    LegacyBackend.apply_progress RuleTable.ensureAbsent_makes policy tables params machine
  rw [Iptables.rulesOf_eq listed] at progress
  refine ⟨result, after, reached, ?_, ?_, progress⟩
  · simp only [remove, LegacyBackend.remove, removed]
  · cases result with
    | ok done => exact .inl rfl
    | error fault =>
      have failed : (LegacyBackend.remove policy (.inMemory tables params, machine)).1 =
          .error fault := congrArg Prod.fst removed
      obtain ⟨operation, rfl⟩ := LegacyBackend.remove_refused listed tables machine fault failed
      exact .inr ⟨operation, rfl⟩

end RuleBackend

namespace Station

variable {ω : Type}

/-- A session for a policy whose tables hold what they held when it was opened, and behind that
what its installs have left. -/
structure Diverting (policy : Policy) (params : DivertParams) (rules : List Rule)
    (starts : List MemoryTable) (station : Station ω) : Prop where
  policy : station.session.policy = policy
  tables : ∃ tables, station.session.backend = .legacy (.inMemory tables params) ∧
    List.Forall₂ (Extended rules station.session.rules) starts tables

/-- No call to a table is refused when the session is closed. -/
def ClosesUnrefused (station : Station ω) : Prop :=
  station.session.rules ≠ .absent →
    ∀ operation, (Session.remove (station.session, station.machine)).1 ≠
      .error (MemoryTable.refusal operation)

namespace Diverting

variable {policy : Policy} {params : DivertParams} {rules : List Rule} {starts : List MemoryTable}
  {station after : Station ω}

theorem start (fresh : ∀ table ∈ starts, ∀ rule ∈ rules, rule ∉ table.rules) (id : Nat)
    (world : ω) (machine : Machine) :
    Diverting policy params rules starts
      (openWith id (.legacy (.inMemory starts params)) policy world machine) where
  policy := rfl
  tables := ⟨starts, rfl, List.forall₂_same.mpr fun table member => .opened (fresh table member)⟩

/-- What leaves the policy, the backend and the notes on the rules alone goes on diverting. -/
theorem untouched (diverting : Diverting policy params rules starts station)
    (samePolicy : after.session.policy = station.session.policy)
    (sameBackend : after.session.backend = station.session.backend)
    (sameRules : after.session.rules = station.session.rules) :
    Diverting policy params rules starts after where
  policy := samePolicy.trans diverting.policy
  tables := by
    rw [sameBackend, sameRules]
    exact diverting.tables

variable [Transport ω]

theorem limited (diverting : Diverting policy params rules starts station)
    (number : Nat) (limits : TableLimits) :
    Diverting policy params rules starts (take (.limit number limits) station).2 where
  policy := diverting.policy
  tables := by
    obtain ⟨tables, backend, extended⟩ := diverting.tables
    obtain ⟨after, limited, same⟩ := RuleTable.limitMemory_map limits number tables
    have extendedThen : List.Forall₂ (Extended rules station.session.rules) starts after :=
      forall₂_compose (fun _ _ _ before same => before.kept same) extended same
    refine ⟨after, ?_, extendedThen⟩
    simp [take, backend, RuleBackend.limit, LegacyBackend.inMemory, limited]

theorem dispatched (diverting : Diverting policy params rules starts station) :
    Diverting policy params rules starts (take .dispatch station).2 := by
  rcases station.session.resume_cases station.arrivals station.world with same | ⟨_, ended⟩
  · refine diverting.untouched ?_ ?_ ?_ <;> simp [take, same]
  · refine diverting.untouched ?_ ?_ ?_ <;> simp [take, ended, Session.ended, Session.record]

/-- A registration leaves the tables alone or goes on installing in them. -/
theorem registered (diverting : Diverting policy params rules starts station)
    (listed : Iptables.divertRules policy params = .ok rules) (shutdown : Shutdown)
    (callback : Callback ω) :
    Diverting policy params rules starts (take (.register shutdown callback) station).2 := by
  cases busy : station.session.dispatcher with
  | some dispatcher =>
    rw [register_of_some busy]
    exact diverting
  | none =>
    by_cases installed : station.session.rules = .installed
    · refine diverting.untouched ?_ ?_ ?_ <;>
        simp [take, Session.register_restarts busy installed, Session.spawn, Session.record]
    · obtain ⟨tables, backend, extended⟩ := diverting.tables
      obtain ⟨result, after, reached, install, progress⟩ :=
        RuleBackend.install_inMemory listed tables station.machine
      have registers := Session.register_installs busy installed station.machine shutdown callback
      rw [diverting.policy, backend, install] at registers
      have distinct := Iptables.nodup_divertRules listed
      simp only [take, registers]
      exact ⟨rfl, after, rfl,
        forall₂_compose (fun _ _ _ before => before.install distinct) extended progress⟩

/-- Whatever happens to a session, it goes on diverting. -/
theorem taken (diverting : Diverting policy params rules starts station)
    (listed : Iptables.divertRules policy params = .ok rules) (stimulus : Stimulus ω) :
    Diverting policy params rules starts (take stimulus station).2 := by
  cases stimulus with
  | register shutdown callback => exact diverting.registered listed shutdown callback
  | signal shutdown =>
    cases busy : station.session.dispatcher <;>
      refine diverting.untouched ?_ ?_ ?_ <;> simp [take, Session.signal, busy]
  | arrive arrival => exact diverting.untouched rfl rfl rfl
  | dispatch => exact diverting.dispatched
  | limit number limits => exact diverting.limited number limits
  | outside change => exact diverting.untouched rfl rfl rfl

theorem run (diverting : Diverting policy params rules starts station)
    (listed : Iptables.divertRules policy params = .ok rules) (stimuli : List (Stimulus ω)) :
    Diverting policy params rules starts (Station.run stimuli station) := by
  induction stimuli generalizing station with
  | nil => exact diverting
  | cons stimulus stimuli inductionHypothesis =>
    exact inductionHypothesis (diverting.taken listed stimulus)

theorem close (diverting : Diverting policy params rules starts station)
    (listed : Iptables.divertRules policy params = .ok rules)
    (unrefused : station.ClosesUnrefused) :
    ∃ tables, (Station.close station).2.session.backend = .legacy (.inMemory tables params) ∧
      List.Forall₂ MemoryTable.Restored starts tables := by
  obtain ⟨tables, backend, extended⟩ := diverting.tables
  by_cases absent : station.session.rules = .absent
  · rw [absent] at extended
    refine ⟨tables, ?_, extended.imp fun _ _ before => before.restored_of_absent⟩
    simp [Station.close, Session.close, Session.abort_eq, Session.removeRules, absent, backend,
      Session.unbind, Session.record]
  · obtain ⟨result, after, reached, removed, outcome, progress⟩ :=
      RuleBackend.remove_inMemory listed tables station.machine
    have succeeded : result = .ok () := by
      rcases outcome with done | ⟨operation, refused⟩
      · exact done
      · have answered := unrefused absent operation
        simp [Session.remove, diverting.policy, backend, removed, refused] at answered
    subst succeeded
    refine ⟨after, ?_, forall₂_compose (fun _ _ _ before => before.remove) extended progress⟩
    have present : station.session.abort.rules ≠ .absent := by rwa [Session.abort_eq]
    have closed := station.session.abort.removeRules_of_ne present station.machine
    simp only [Session.abort_eq, diverting.policy, backend, removed] at closed
    simp [Station.close, Session.close, Session.abort_eq, closed, diverting.policy, backend,
      Session.unbind, Session.record]

end Diverting

end Station

/-- While a session is open, every table holds what it held before and, behind that, as much of the
rules as its installs have come to. Closing the session leaves every table as it was, whatever calls
were refused to the installs, unless one is refused to the close itself. -/
theorem close_restores_tables {ω : Type} [Transport ω] {policy : Policy} {params : DivertParams}
    {rules : List Rule} (listed : Iptables.divertRules policy params = .ok rules)
    {tables : List MemoryTable} (fresh : ∀ table ∈ tables, ∀ rule ∈ rules, rule ∉ table.rules)
    (id : Nat) (world : ω) (machine : Machine) (stimuli : List (Stimulus ω)) :
    let start := Station.openWith id (.legacy (.inMemory tables params)) policy world machine
    let station := Station.run stimuli start
    (∃ before, station.session.backend = .legacy (.inMemory before params) ∧
      List.Forall₂ (Extended rules station.session.rules) tables before) ∧
    (station.ClosesUnrefused →
      ∃ after, (Station.close station).2.session.backend = .legacy (.inMemory after params) ∧
        List.Forall₂ MemoryTable.Restored tables after) := by
  intro start station
  have diverting : station.Diverting policy params rules tables :=
    (Station.Diverting.start fresh id world machine).run listed stimuli
  exact ⟨diverting.tables, diverting.close listed⟩

/-- A run of two registrations. The first install stops at the second table, and the second one,
which goes on from there, at the first table. -/
def stoppedInstalls : List (Stimulus DetachedTransport) :=
  [.limit 1 { append := some 1 },
    .register ⟨false, true⟩ fun _ world => (.proceed, world),
    .signal ⟨true, true⟩, .dispatch,
    .limit 1 {}, .limit 0 { append := some 1 },
    .register ⟨false, true⟩ fun _ world => (.proceed, world)]

/-- The session after the first part of that run. Its tables were empty but for one rule of their
own. -/
def stoppedStation (count : Nat) : Station DetachedTransport :=
  Station.run (stoppedInstalls.take count)
    (Station.openWith 1 (.legacy (.inMemory twoTables .usual)) ⟨false, true⟩ {} .bare)

theorem close_restores_tables_after_stopped_installs :
    let rules := Iptables.rulesOf ⟨false, true⟩ .usual
    let own : Rule := ⟨"filter", "FORWARD", ["-j", "LOG"]⟩
    let station := stoppedStation 7
    (stoppedStation 2).session.backend.tables.map RuleTable.held =
        [own :: rules.take 2, rules.take 1] ∧
      station.session.backend.tables.map RuleTable.held = [own :: rules.take 3, rules.take 3] ∧
      station.session.rules = .attempted ∧ station.ClosesUnrefused ∧
      ∃ after, (Station.close station).2.session.backend = .legacy (.inMemory after .usual) ∧
        List.Forall₂ MemoryTable.Restored twoTables after := by
  have listed : Iptables.divertRules ⟨false, true⟩ .usual =
      .ok (Iptables.rulesOf ⟨false, true⟩ .usual) := rfl
  have fresh : ∀ table ∈ twoTables,
      ∀ rule ∈ Iptables.rulesOf ⟨false, true⟩ .usual, rule ∉ table.rules := by decide +kernel
  have attempted : (stoppedStation 7).session.rules = .attempted := by decide +kernel
  have removed : (Session.remove ((stoppedStation 7).session, (stoppedStation 7).machine)).1.isOk =
      true := by decide +kernel
  have unrefused : (stoppedStation 7).ClosesUnrefused := by
    intro _ operation refused
    rw [refused] at removed
    cases removed
  have restored := close_restores_tables listed fresh 1 ({} : DetachedTransport) .bare
    (stoppedInstalls.take 7)
  refine ⟨by decide +kernel, by decide +kernel, attempted, unrefused, ?_⟩
  unfold stoppedStation at unrefused ⊢
  exact restored.2 unrefused

end PacketDivert
