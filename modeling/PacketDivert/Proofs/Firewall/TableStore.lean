import PacketDivert.Firewall.Backend
import PacketDivert.Proofs.Firewall.Moments
import PacketDivert.Proofs.Firewall.ToolCalls
import PacketDivert.Proofs.Rules.NftablesTables

/-! The tables that the tool of a backend keeps, and what installs and removals leave of them. A
call that fails leaves them as they are, whatever the reason. -/

namespace PacketDivert

open Nftables (KeptTable TableStore divertTable)

/-- What the tool of a backend is asked for. -/
inductive TableRequest where
  | delete (family name : String)
  | load (script : String)

namespace TableRequest

def arguments : TableRequest → List String
  | .delete family name => ["delete", "table", family, name]
  | .load _ => ["-f", "-"]

def input : TableRequest → Option String
  | .delete _ _ => none
  | .load script => some script

def ofCall? : List String → Option String → Option TableRequest
  | ["delete", "table", family, name], none => some (.delete family name)
  | ["-f", "-"], some script => some (.load script)
  | _, _ => none

theorem ofCall?_arguments (request : TableRequest) :
    ofCall? request.arguments request.input = some request := by
  cases request <;> rfl

/-- What a request that succeeds makes of the tables. -/
def apply : TableRequest → TableStore → TableStore
  | .delete family name, store => Function.update store (family, name) none
  | .load script, store => ((Nftables.readScript script).bind (·.load store)).getD store

end TableRequest

/-- A call whose tool was started and ended well. -/
def ToolCall.succeeded (call : ToolCall) : Bool :=
  match call.outcome with
  | .ok output => output.succeeded
  | .error _ => false

namespace NftBackend

def request? (backend : NftBackend) (invocation : Invocation) : Option TableRequest :=
  (invocation.argumentsFor backend.program backend.leading).bind
    (TableRequest.ofCall? · invocation.input)

/-- What a call makes of the tables. -/
def effect (backend : NftBackend) (store : TableStore) (call : ToolCall) : TableStore :=
  match backend.request? call.invocation with
  | none => store
  | some request => if call.succeeded then request.apply store else store

/-- The tables after some calls, by those that were there before. -/
def stored (backend : NftBackend) (first : TableStore) (calls : List ToolCall) : TableStore :=
  calls.foldl backend.effect first

/-- The address family and name of the table that a backend installs. -/
def key (backend : NftBackend) : String × String := (Nftables.family, backend.params.table.text)

def invocation (backend : NftBackend) (request : TableRequest) : Invocation where
  program := backend.program
  arguments := backend.leading ++ request.arguments
  input := request.input

def send (backend : NftBackend) (request : TableRequest) : Attempt Error Machine Unit :=
  backend.run request.arguments request.input

variable (backend : NftBackend) (machine : Machine)

theorem request?_invocation (request : TableRequest) :
    backend.request? (backend.invocation request) = some request := by
  rw [request?, invocation, Invocation.argumentsFor_append]
  exact request.ofCall?_arguments

/-- A request is one call, and it succeeds if the call does. -/
theorem send_run (request : TableRequest) :
    (backend.send request machine).2 = machine.called (backend.invocation request) ∧
      (backend.send request machine).1.isOk =
        ToolCall.succeeded ⟨backend.invocation request,
          machine.tools.answer machine.tools.calls (backend.invocation request)⟩ := by
  have ran : Machine.run (backend.invocation request) machine =
      (machine.tools.answer machine.tools.calls (backend.invocation request),
        machine.called (backend.invocation request)) := rfl
  unfold invocation at ran ⊢
  rw [send, run, Attempt.bind_run, Attempt.mapError_run, ran]
  cases machine.tools.answer machine.tools.calls _ with
  | error cause => exact ⟨rfl, rfl⟩
  | ok output =>
    simp only [Except.mapError]
    by_cases succeeded : output.succeeded = true
    · simp [succeeded, ToolCall.succeeded, Except.isOk, Except.toBool]
    · simp [succeeded, ToolCall.succeeded, Except.isOk, Except.toBool]

/-- The tables after a request. -/
theorem stored_send (first : TableStore) (request : TableRequest) :
    backend.stored first (backend.send request machine).2.tools.calls =
      if (backend.send request machine).1.isOk = true then
        request.apply (backend.stored first machine.tools.calls)
      else backend.stored first machine.tools.calls := by
  obtain ⟨called, succeeded⟩ := backend.send_run machine request
  rw [called, succeeded, Machine.called_calls, stored, List.foldl_append, List.foldl_cons,
    List.foldl_nil, effect, request?_invocation]
  rfl

/-- A request that is about the table of a backend. -/
def Own : TableRequest → Prop
  | .delete family name => (family, name) = backend.key
  | .load script => ∃ policy ruleset,
      Nftables.divertRuleset policy backend.params = .ok ruleset ∧ script = ruleset.listing.text

variable {backend} {machine}

theorem load_divertRuleset {policy : Policy} {ruleset : Nftables.Ruleset}
    (listed : Nftables.divertRuleset policy backend.params = .ok ruleset) (store : TableStore) :
    (TableRequest.load ruleset.listing.text).apply store =
      Function.update store backend.key
        (some (KeptTable.join ((store backend.key).getD fun _ => none)
          (divertTable policy backend.params))) := by
  rw [TableRequest.apply, Nftables.readScript_divertRuleset listed, Option.bind_some,
    Nftables.load_divertRuleset listed]
  rfl

theorem Own.apply_of_ne {request : TableRequest} (own : backend.Own request) (store : TableStore)
    {other : String × String} (different : other ≠ backend.key) :
    request.apply store other = store other := by
  cases request with
  | delete family name =>
    have same : (family, name) = backend.key := own
    rw [TableRequest.apply, same, Function.update_of_ne different]
  | load script =>
    obtain ⟨policy, ruleset, listed, rfl⟩ := own
    rw [load_divertRuleset listed, Function.update_of_ne different]

variable (backend) in
/-- A machine is reached by calls about the table of a backend. -/
def Reaches (before after : Machine) : Prop :=
  ∃ added, after.tools.calls = before.tools.calls ++ added ∧
    ∀ call ∈ added, ∃ request, backend.request? call.invocation = some request ∧ backend.Own request

theorem Reaches.refl (machine : Machine) : backend.Reaches machine machine :=
  ⟨[], (List.append_nil _).symm, nofun⟩

theorem Reaches.trans {before middle after : Machine} (first : backend.Reaches before middle)
    (second : backend.Reaches middle after) : backend.Reaches before after := by
  obtain ⟨added, reached, own⟩ := first
  obtain ⟨addedThen, reachedThen, ownThen⟩ := second
  refine ⟨added ++ addedThen, by rw [reachedThen, reached, List.append_assoc], ?_⟩
  exact List.forall_mem_append.mpr ⟨own, ownThen⟩

theorem reaches_send {request : TableRequest} (own : backend.Own request) (machine : Machine) :
    backend.Reaches machine (backend.send request machine).2 := by
  rw [(backend.send_run machine request).1]
  refine ⟨_, Machine.called_calls _ machine, ?_⟩
  exact List.forall_mem_singleton.mpr ⟨request, backend.request?_invocation request, own⟩

/-- Other tables are as they were at every moment of a run. -/
theorem Reaches.stored_of_ne {before after : Machine} (reaches : backend.Reaches before after)
    (first : TableStore) {calls : List ToolCall} (since : before.tools.calls <+: calls)
    (upTo : calls <+: after.tools.calls) {other : String × String}
    (different : other ≠ backend.key) :
    backend.stored first calls other = backend.stored first before.tools.calls other := by
  obtain ⟨added, reached, own⟩ := reaches
  obtain ⟨part, rfl⟩ := since
  have leading : part <+: added := by
    rw [reached] at upTo
    exact (List.prefix_append_right_inj _).mp upTo
  replace own : ∀ call ∈ part, ∃ request,
      backend.request? call.invocation = some request ∧ backend.Own request :=
    fun call member => own call (leading.subset member)
  rw [stored, List.foldl_append]
  change part.foldl backend.effect (backend.stored first before.tools.calls) other = _
  generalize backend.stored first before.tools.calls = store
  clear reached upTo leading
  induction part generalizing store with
  | nil => rfl
  | cons call part inductionHypothesis =>
    obtain ⟨⟨request, asked, mine⟩, ownRest⟩ := List.forall_mem_cons.mp own
    rw [List.foldl_cons, inductionHypothesis ownRest, effect, asked]
    dsimp only
    split
    · exact mine.apply_of_ne store different
    · rfl

theorem deleteTable_eq (backend : NftBackend) :
    backend.deleteTable = backend.send (.delete Nftables.family backend.params.table.text) := rfl

theorem own_delete (backend : NftBackend) :
    backend.Own (.delete Nftables.family backend.params.table.text) := rfl

theorem own_load {policy : Policy} {ruleset : Nftables.Ruleset}
    (listed : Nftables.divertRuleset policy backend.params = .ok ruleset) :
    backend.Own (.load ruleset.listing.text) :=
  ⟨policy, ruleset, listed, rfl⟩

theorem install_run {policy : Policy} {ruleset : Nftables.Ruleset}
    (listed : Nftables.divertRuleset policy backend.params = .ok ruleset) (machine : Machine) :
    backend.install policy machine =
      backend.send (.load ruleset.listing.text) (backend.deleteTable machine).2 := by
  rw [install, Attempt.bind_run, Attempt.ofExcept_run, listed]
  rfl

theorem remove_run {policy : Policy} {ruleset : Nftables.Ruleset}
    (listed : Nftables.divertRuleset policy backend.params = .ok ruleset) (machine : Machine) :
    backend.remove policy machine = backend.deleteTable machine := by
  rw [remove, Attempt.bind_run, Attempt.ofExcept_run, listed]

def perform (backend : NftBackend) (policy : Policy) : RuleChange → Attempt Error Machine Unit
  | .install => backend.install policy
  | .remove => backend.remove policy

theorem perform_of_incoherent {policy : Policy} (conflict : ¬policy.Coherent) (change : RuleChange)
    (machine : Machine) :
    backend.perform policy change machine = (.error .policyConflict, machine) := by
  have refused : Nftables.divertRuleset policy backend.params = .error .policyConflict :=
    if_neg conflict
  cases change with
  | install => rw [perform, install, Attempt.bind_run, Attempt.ofExcept_run, refused]
  | remove => rw [perform, remove, Attempt.bind_run, Attempt.ofExcept_run, refused]

theorem listed_of_coherent {policy : Policy} (coherent : policy.Coherent) (params : DivertParams) :
    ∃ ruleset, Nftables.divertRuleset policy params = .ok ruleset :=
  ⟨_, if_pos coherent⟩

theorem reaches_perform (policy : Policy) (change : RuleChange) (machine : Machine) :
    backend.Reaches machine (backend.perform policy change machine).2 := by
  by_cases coherent : policy.Coherent
  · obtain ⟨ruleset, listed⟩ := listed_of_coherent coherent backend.params
    have deleted : backend.Reaches machine (backend.deleteTable machine).2 :=
      reaches_send backend.own_delete machine
    cases change with
    | install =>
      rw [perform, install_run listed]
      exact deleted.trans (reaches_send (own_load listed) _)
    | remove =>
      rw [perform, remove_run listed]
      exact deleted
  · rw [perform_of_incoherent coherent]
    exact .refl machine

/-- The machine after some installs and removals. -/
def afterUses (backend : NftBackend) : List (Policy × RuleChange) → Machine → Machine
  | [], machine => machine
  | (policy, change) :: uses, machine =>
    afterUses backend uses (backend.perform policy change machine).2

theorem reaches_afterUses (uses : List (Policy × RuleChange)) (machine : Machine) :
    backend.Reaches machine (backend.afterUses uses machine) := by
  induction uses generalizing machine with
  | nil => exact .refl machine
  | cons entry uses inductionHypothesis =>
    obtain ⟨policy, change⟩ := entry
    exact (reaches_perform policy change machine).trans (inductionHypothesis _)

theorem listed_of_perform {policy : Policy} {change : RuleChange} {before after : Machine}
    (performed : backend.perform policy change before = (.ok (), after)) :
    ∃ ruleset, Nftables.divertRuleset policy backend.params = .ok ruleset := by
  by_cases coherent : policy.Coherent
  · exact listed_of_coherent coherent backend.params
  · rw [perform_of_incoherent coherent] at performed
    exact nomatch congrArg Prod.fst performed

/-- An install puts its chains into what its deletion has left. -/
theorem stored_install (first : TableStore) {policy : Policy} {before after : Machine}
    (installed : backend.install policy before = (.ok (), after)) :
    backend.stored first after.tools.calls backend.key =
      some (KeptTable.join
        ((backend.stored first (backend.deleteTable before).2.tools.calls backend.key).getD
          fun _ => none)
        (divertTable policy backend.params)) := by
  have performed : backend.perform policy .install before = (.ok (), after) := installed
  obtain ⟨ruleset, listed⟩ := listed_of_perform performed
  rw [install_run listed] at installed
  have stored := backend.stored_send (backend.deleteTable before).2 first
    (.load ruleset.listing.text)
  rw [installed] at stored
  rw [stored]
  simp only [Except.isOk, Except.toBool, ↓reduceIte]
  rw [load_divertRuleset listed, Function.update_self]

theorem stored_deleteTable (backend : NftBackend) (first : TableStore) (before : Machine) :
    backend.stored first (backend.deleteTable before).2.tools.calls backend.key =
      if (backend.deleteTable before).1.isOk = true then none
      else backend.stored first before.tools.calls backend.key := by
  rw [deleteTable_eq, stored_send]
  split
  · exact Function.update_self _ _ _
  · rfl

theorem stored_remove (first : TableStore) {policy : Policy} {before after : Machine}
    (removed : backend.remove policy before = (.ok (), after)) :
    backend.stored first after.tools.calls backend.key = none := by
  have performed : backend.perform policy .remove before = (.ok (), after) := removed
  obtain ⟨ruleset, listed⟩ := listed_of_perform performed
  rw [remove_run listed] at removed
  have stored := backend.stored_deleteTable first before
  rw [removed] at stored
  exact stored

end NftBackend

/-- Throughout all runs of installs and removals other tables stay as they are. An install that
succeeds leaves exactly the chains and rules that are listed for its policy, each rule once, if the
table was deleted before, or if there was none, or nothing in it but some of these chains without
rules. In all other cases it leaves something else. A removal that succeeds leaves no table. What
cannot be enforced is refused without a call to the tool. -/
theorem install_replaces_table_iff (backend : NftBackend) (first : TableStore) (machine : Machine)
    (uses : List (Policy × RuleChange)) :
    let before := backend.afterUses uses machine
    (∀ calls, machine.tools.calls <+: calls → calls <+: before.tools.calls →
      ∀ other ≠ backend.key, backend.stored first calls other =
        backend.stored first machine.tools.calls other) ∧
    ∀ policy after,
      (backend.install policy before = (.ok (), after) →
        (backend.stored first after.tools.calls backend.key =
            some (divertTable policy backend.params) ↔
          (backend.deleteTable before).1.isOk = true ∨
            ∀ found, backend.stored first before.tools.calls backend.key = some found →
              found.YieldsTo (divertTable policy backend.params)) ∧
        ∀ name chain, divertTable policy backend.params name = some chain → chain.rules.Nodup) ∧
      (backend.remove policy before = (.ok (), after) →
        backend.stored first after.tools.calls backend.key = none) ∧
      (¬policy.Coherent → ∀ change,
        backend.perform policy change before = (.error .policyConflict, before)) := by
  intro before
  refine ⟨fun calls since upTo other different => ?_,
    fun policy after => ⟨fun installed => ⟨?_, ?_⟩, NftBackend.stored_remove first,
      fun conflict change => NftBackend.perform_of_incoherent conflict change before⟩⟩
  · exact (NftBackend.reaches_afterUses uses machine).stored_of_ne first since upTo different
  · rw [NftBackend.stored_install first installed, NftBackend.stored_deleteTable, Option.some_inj,
      KeptTable.join_eq_right_iff]
    by_cases deleted : (backend.deleteTable before).1.isOk = true
    · simp only [deleted, ↓reduceIte, Option.getD_none, true_or, iff_true]
      exact KeptTable.yieldsTo_empty _
    · simp only [deleted, Bool.false_eq_true, ↓reduceIte, false_or]
      cases backend.stored first before.tools.calls backend.key with
      | none => simpa using KeptTable.yieldsTo_empty _
      | some found => simp
  · exact fun name chain => Nftables.nodup_rules_divertTable

/-- A tool that keeps tables and fails only where there is nothing to delete. -/
def ToolHost.storing (backend : NftBackend) (first : TableStore) : ToolHost where
  answer calls invocation :=
    match backend.request? invocation with
    | some (.delete family name) =>
      .ok ⟨.exited (if (backend.stored first calls (family, name)).isSome then 0 else 1), []⟩
    | some (.load _) => .ok ⟨.exited 0, []⟩
    | none => .error .notFound

section

variable {backend : NftBackend} {first : TableStore} {machine : Machine}
  (answers : machine.tools.answer = (ToolHost.storing backend first).answer)

include answers

theorem ToolHost.storing_deletes :
    (backend.deleteTable machine).1.isOk =
      (backend.stored first machine.tools.calls backend.key).isSome := by
  rw [NftBackend.deleteTable_eq, (backend.send_run machine _).2, answers]
  simp only [storing, NftBackend.request?_invocation, ToolCall.succeeded, ToolOutput.succeeded]
  change _ = (backend.stored first machine.tools.calls (Nftables.family, _)).isSome
  cases (backend.stored first machine.tools.calls (Nftables.family, _)).isSome <;> rfl

theorem ToolHost.storing_installs {policy : Policy} (coherent : policy.Coherent) :
    (backend.install policy machine).1.isOk = true := by
  obtain ⟨ruleset, listed⟩ := NftBackend.listed_of_coherent coherent backend.params
  rw [NftBackend.install_run listed, (backend.send_run _ _).2, NftBackend.deleteTable_eq,
    (backend.send_run _ _).1, Machine.called_answer, answers]
  simp only [storing, NftBackend.request?_invocation, ToolCall.succeeded]
  rfl

end

/-- A table that was left behind by a policy. -/
def leftBehind (backend : NftBackend) (policy : Policy) : TableStore :=
  Function.update (fun _ => none) backend.key (some (divertTable policy backend.params))

theorem leftBehind_key (backend : NftBackend) (policy : Policy) :
    leftBehind backend policy backend.key = some (divertTable policy backend.params) :=
  Function.update_self ..

def usualNft : NftBackend where
  program := "nft"
  params := .usual

/-- Of a table that was left behind nothing stays, and policies give way to each other. -/
theorem install_replaces_table_left_behind :
    let first := leftBehind usualNft ⟨true, false⟩
    let machine : Machine := ⟨.storing usualNft first, []⟩
    let before := usualNft.afterUses [(⟨false, true⟩, .install)] machine
    ∃ after, usualNft.install ⟨false, false⟩ before = (.ok (), after) ∧
      usualNft.stored first after.tools.calls usualNft.key =
        some (divertTable ⟨false, false⟩ .usual) := by
  intro first machine before
  have answers : before.tools.answer = (ToolHost.storing usualNft first).answer := rfl
  have installedBefore : usualNft.install ⟨false, true⟩ machine = (.ok (), before) :=
    Attempt.run_of_isOk (ToolHost.storing_installs rfl (by decide))
  have deleted : (usualNft.deleteTable before).1.isOk = true := by
    rw [ToolHost.storing_deletes answers, NftBackend.stored_install first installedBefore]
    rfl
  have installed : usualNft.install ⟨false, false⟩ before = (.ok (), _) :=
    Attempt.run_of_isOk (ToolHost.storing_installs answers (by decide))
  obtain ⟨_, replaced⟩ := install_replaces_table_iff usualNft first machine
    [(⟨false, true⟩, .install)]
  exact ⟨_, installed, ((replaced _ _).1 installed).1.mpr (.inl deleted)⟩

/-- A tool that cannot delete tables for now. -/
def busyTool : ToolHost where
  answer _ invocation :=
    if invocation.arguments = ["-f", "-"] then .ok ⟨.exited 0, []⟩
    else .ok ⟨.exited 1, "Error: Could not process rule: Device or resource busy".toUTF8.toList⟩

/-- Where the deletion is refused though there is a table, an install succeeds and leaves each of
its rules twice. -/
theorem refused_deletion_doubles_rules :
    let machine : Machine := ⟨busyTool, []⟩
    let first := leftBehind usualNft ⟨false, false⟩
    let rules := [
      ["ct", "mark", "1001", "counter", "accept"],
      ["ct", "mark", "1002", "counter", "drop"],
      ["counter", "queue", "num", "100", "bypass"]]
    (∀ calls invocation family name,
      usualNft.request? invocation = some (.delete family name) →
        usualNft.stored first calls (family, name) = none →
        ToolCall.succeeded ⟨invocation, busyTool.answer calls invocation⟩ = false) ∧
    ∃ after, usualNft.install ⟨false, false⟩ machine = (.ok (), after) ∧
      ((usualNft.stored first after.tools.calls usualNft.key).bind (· "FORWARD")).map (·.rules) =
        some (rules ++ rules) ∧
      (divertTable ⟨false, false⟩ .usual "FORWARD").map (·.rules) = some rules ∧
      usualNft.stored first after.tools.calls usualNft.key ≠
        some (divertTable ⟨false, false⟩ .usual) := by
  intro machine first rules
  have installed : usualNft.install ⟨false, false⟩ machine = (.ok (), _) :=
    Attempt.run_of_isOk (by decide +kernel)
  have refused : (usualNft.deleteTable machine).1.isOk = false := by decide +kernel
  have present : usualNft.stored first machine.tools.calls usualNft.key =
      some (divertTable ⟨false, false⟩ .usual) := leftBehind_key usualNft ⟨false, false⟩
  have left := NftBackend.stored_install first installed
  rw [NftBackend.stored_deleteTable, refused, present] at left
  have listed : (divertTable ⟨false, false⟩ .usual "FORWARD").map (·.rules) = some rules := by
    decide +kernel
  have doubled : ((usualNft.stored first (usualNft.install ⟨false, false⟩ machine).2.tools.calls
      usualNft.key).bind (· "FORWARD")).map (·.rules) = some (rules ++ rules) := by
    rw [left]
    decide +kernel
  refine ⟨?_, _, installed, doubled, listed, fun same => ?_⟩
  · intro calls invocation family name asked _
    obtain ⟨arguments, found, read⟩ := Option.bind_eq_some_iff.mp asked
    have given : invocation.arguments = arguments := (Invocation.argumentsFor_eq_some found).2
    have other : invocation.arguments ≠ ["-f", "-"] := by
      intro loads
      rw [← given, loads] at read
      cases input : invocation.input <;> simp [TableRequest.ofCall?, input] at read
    rw [ToolCall.succeeded, busyTool]
    simp only [other, ↓reduceIte]
    rfl
  · rw [same] at doubled
    exact absurd (listed.symm.trans doubled) (by decide)

end PacketDivert
