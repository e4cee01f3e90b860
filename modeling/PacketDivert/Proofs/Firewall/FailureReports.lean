import PacketDivert.Proofs.Firewall.CallOrder

/-! What is reported when a tool fails in the middle of an install or a removal. The report is that
of the last call. It tells the rule and the table of a tool that has said nothing; what a tool did
say is reported as it is. -/

namespace PacketDivert

open Iptables (Rule)

/-- A text tells which rule of which table it is about: the rule's arguments stand in it, and so
does the name of the table's address family or of its program. -/
def ToolTable.Tells (table : ToolTable) (rule : Rule) (text : String) : Prop :=
  (" ".intercalate rule.spec).toList <:+: text.toList ∧
    (table.family.toList <:+: text.toList ∨ table.program.toList <:+: text.toList)

/-- What is reported of a tool's call that failed. -/
def ToolOutput.report (output : ToolOutput) (table : ToolTable) (operation : TableOperation)
    (rule : Rule) : String :=
  if output.words = "" then
    table.program ++ " " ++ operation.option ++ " " ++ rule.text ++ ": exited with " ++
      output.status.text
  else output.words

namespace ToolTable

variable (table : ToolTable) (operation : TableOperation) (rule : Rule) (output : ToolOutput)

theorem failure_message :
    (output.failure (table.program ++ " " ++ operation.option ++ " " ++ rule.text)).message =
      output.report table operation rule := by
  unfold ToolOutput.failure ToolOutput.report
  by_cases silent : output.words = ""
  · simp [silent, toString]
  · simp [silent]

theorem failure_exitCode :
    (output.failure (table.program ++ " " ++ operation.option ++ " " ++ rule.text)).exitCode =
      output.status.exitCode := by
  unfold ToolOutput.failure
  dsimp only
  split <;> rfl

/-- The rule and the program are a part of what is reported of a tool that has said nothing. -/
theorem tells_of_silent (silent : output.words = "") :
    table.Tells rule (output.report table operation rule) := by
  rw [ToolOutput.report, if_pos silent]
  constructor
  · refine ⟨(table.program ++ " " ++ operation.option ++ " " ++ "-t " ++ rule.table ++ " -A " ++
      rule.chain ++ " ").toList, (": exited with " ++ output.status.text).toList, ?_⟩
    simp [Rule.text]
  · refine .inr ⟨[], (" " ++ operation.option ++ " " ++ rule.text ++ ": exited with " ++
      output.status.text).toList, ?_⟩
    simp

theorem tells_report_iff :
    table.Tells rule (output.report table operation rule) ↔
      output.words = "" ∨ table.Tells rule output.words := by
  by_cases silent : output.words = ""
  · exact iff_of_true (table.tells_of_silent operation rule output silent) (.inl silent)
  · rw [ToolOutput.report, if_neg silent, or_iff_right silent]

end ToolTable

/-- A tool's call fails with the report of what it said, or because the tool cannot be started. -/
theorem ToolSays.report {table : ToolTable} {rule : Rule} {operation : TableOperation}
    {outcome : Except SystemError ToolOutput} {failure : ToolFailure}
    (told : ToolSays table rule operation outcome (.failed (.iptables failure))) :
    ∃ output, outcome = .ok output ∧
      failure.message = output.report table operation rule ∧
      failure.exitCode = output.status.exitCode := by
  cases told with
  | unclear output present absent =>
    exact ⟨output, rfl, table.failure_message .contains rule output,
      table.failure_exitCode .contains rule output⟩
  | refused changes output status =>
    exact ⟨output, rfl, table.failure_message operation rule output,
      table.failure_exitCode operation rule output⟩

theorem Dealt.concerns {change : RuleChange} {rule : Rule} {place : Nat} {visits : List Visit}
    {result : Except Error Unit} (dealt : Dealt change rule place visits result) :
    ∀ visit ∈ visits, visit.rule = rule ∧ visit.place = place ∧
      (visit.operation = .contains ∨ visit.operation = change.operation) := by
  cases dealt <;> simp

/-- Every call is about one of the pairs that are dealt with, and asks or alters. -/
theorem DealtInTurn.concerns {change : RuleChange} {pairs : List (Rule × Nat)}
    {visits : List Visit} {result : Except Error Unit}
    (dealt : DealtInTurn change pairs visits result) :
    ∀ visit ∈ visits, (visit.rule, visit.place) ∈ pairs ∧
      (visit.operation = .contains ∨ visit.operation = change.operation) := by
  induction dealt with
  | done => exact fun _ none => absurd none List.not_mem_nil
  | next first _ inductionHypothesis =>
    intro visit member
    rcases List.mem_append.mp member with here | later
    · obtain ⟨rfl, rfl, asked⟩ := first.concerns visit here
      exact ⟨List.mem_cons_self, asked⟩
    · obtain ⟨listed, asked⟩ := inductionHypothesis visit later
      exact ⟨List.mem_cons_of_mem _ listed, asked⟩
  | failed first =>
    intro visit member
    obtain ⟨rfl, rfl, asked⟩ := first.concerns visit member
    exact ⟨List.mem_cons_self, asked⟩

/-- Where all tables are kept by tools, a failure is that of the call that a tool got last. -/
theorem Logged.last_of_failed {tables : List ToolTable} {visits : List Visit}
    {entries : List TableCall} {calls : List ToolCall} {fault : Error}
    (logged : Logged (tables.map .tool) visits entries calls) (stops : StopAtFault visits)
    (failed : outcomeOf visits = .error fault) :
    ∃ visit ∈ visits, ∃ table outcome front, tables[visit.place]? = some table ∧
      ToolSays table visit.rule visit.operation outcome (.failed fault) ∧
      calls = front ++ [⟨table.invocation visit.operation visit.rule, outcome⟩] := by
  induction logged with
  | done => cases failed
  | noted there =>
    rw [List.getElem?_map] at there
    obtain ⟨table, -, same⟩ := Option.map_eq_some_iff.mp there
    cases same
  | @issued visit visits entries calls table outcome there told rest inductionHypothesis =>
    obtain ⟨first, stopsRest⟩ := List.pairwise_cons.mp stops
    rw [List.getElem?_map] at there
    obtain ⟨_, held, same⟩ := Option.map_eq_some_iff.mp there
    cases same
    cases own : visit.fault? with
    | some cause =>
      have last : visits = [] := by
        apply List.eq_nil_iff_forall_not_mem.mpr
        intro later member
        have further := own.symm.trans (first later member)
        cases further
      subst last
      cases rest
      have answer : visit.answer = .failed fault := by
        rw [outcomeOf, List.findSome?_cons, own] at failed
        cases failed
        unfold Visit.fault? at own
        split at own
        · rename_i answered
          cases own
          exact answered
        · cases own
      exact ⟨visit, List.mem_cons_self, table, outcome, [], held, answer ▸ told, rfl⟩
    | none =>
      have later : outcomeOf visits = .error fault := by
        rw [outcomeOf, List.findSome?_cons, own] at failed
        exact failed
      obtain ⟨last, member, lastTable, lastOutcome, front, place, said, shape⟩ :=
        inductionHypothesis stopsRest later
      exact ⟨last, List.mem_cons_of_mem _ member, lastTable, lastOutcome, _ :: front, place, said,
        congrArg _ shape⟩

/-- An install or a removal over tables kept by tools that ends with a tool's failure reports the
last call that was made, which was about one of the rules and one of the tables. The report tells
that rule and that table exactly if the tool said nothing, or did so itself. -/
theorem failure_tells_rule_iff (change : RuleChange) (policy : Policy) (params : DivertParams)
    (tables : List ToolTable) (machine : Machine) {failure : ToolFailure} :
    let backend : LegacyBackend := { tables := tables.map .tool, params }
    let ran := change.use.perform policy (backend, machine)
    ran.1 = .error (.iptables failure) →
    ∃ table ∈ tables, ∃ rule ∈ Iptables.rulesOf policy params, ∃ operation output front,
      (operation = .contains ∨ operation = change.operation) ∧
      ran.2.2.tools.calls = machine.tools.calls ++ front ++
        [⟨table.invocation operation rule, .ok output⟩] ∧
      failure.exitCode = output.status.exitCode ∧
      failure.message = output.report table operation rule ∧
      (table.Tells rule failure.message ↔ output.words = "" ∨ table.Tells rule output.words) := by
  intro backend ran failed
  have pass : ran = LegacyBackend.apply change.act policy (backend, machine) :=
    congrFun (change.perform_use policy) _
  cases listed : Iptables.divertRules policy backend.params with
  | error fault =>
    have conflict : fault = .policyConflict := by
      unfold Iptables.divertRules Iptables.divertClauses at listed
      split at listed <;> cases listed
      rfl
    rw [pass, LegacyBackend.apply] at failed
    simp only [listed, conflict] at failed
    cases failed
  | ok rules =>
    obtain ⟨visits, dealt, visited⟩ := change.pass_visits rules backend.tables machine
    obtain ⟨entries, calls, logged, kept⟩ := visited.logged
    obtain ⟨stops, same⟩ := dealt.outcome
    rw [LegacyBackend.apply] at pass
    simp only [listed] at pass
    have result : ran.1 = outcomeOf visits := by rw [pass, same]
    have reached : ran.2.2.tools.calls = machine.tools.calls ++ calls := by rw [pass, kept]
    have sites : backend.tables.map RuleTable.site = tables.map .tool := by
      simp [backend, RuleTable.site]
    rw [sites] at logged
    obtain ⟨visit, member, table, outcome, front, there, told, last⟩ :=
      logged.last_of_failed stops (result.symm.trans failed)
    obtain ⟨output, rfl, message, exitCode⟩ := told.report
    obtain ⟨paired, asked⟩ := dealt.concerns visit member
    have rule : visit.rule ∈ Iptables.rulesOf policy params :=
      Iptables.rulesOf_eq listed ▸ (List.pair_mem_product.mp paired).1
    refine ⟨table, List.mem_of_getElem? there, visit.rule, rule, visit.operation, output, front,
      asked, ?_, exitCode, message, ?_⟩
    · rw [reached, last, List.append_assoc]
    · rw [message]
      exact table.tells_report_iff visit.operation visit.rule output

/-- Tables for both address families. -/
def familyTables : List ToolTable := [⟨"iptables", "ipv4", []⟩, ⟨"ip6tables", "ipv6", []⟩]

/-- A machine whose tools hold no rules, and on which the fourth call fails. -/
def contendedMachine (stderr : Bytes) : Machine where
  tools := .scripted (fun _ => .ok ()) [none, none, none, some ⟨.exited 4, stderr⟩]

/-- The second family refuses the first rule in silence. -/
theorem failure_tells_rule_iff_silent :
    let failure : ToolFailure := {
      message := "ip6tables -A -t filter -A FORWARD -m connmark --mark 1001 -j ACCEPT: " ++
        "exited with exit status: 4"
      stderr := none
      exitCode := some 4 }
    let ran := BackendUse.install.perform ⟨false, false⟩
      (({ tables := familyTables.map .tool, params := .usual } : LegacyBackend),
        contendedMachine [])
    ran.1 = .error (.iptables failure) ∧
      ∃ table ∈ familyTables, ∃ rule ∈ Iptables.rulesOf ⟨false, false⟩ .usual,
        ∃ output : ToolOutput,
          (table.Tells rule failure.message ↔
            output.words = "" ∨ table.Tells rule output.words) := by
  intro failure ran
  have failed : ran.1 = .error (.iptables failure) := by rfl
  obtain ⟨table, held, rule, listed, _, output, _, _, _, _, _, told⟩ :=
    failure_tells_rule_iff .install ⟨false, false⟩ .usual familyTables (contendedMachine []) failed
  exact ⟨failed, table, held, rule, listed, output, told⟩

/-- The second family refuses the first rule with one word (`busy`), and nothing else is reported:
neither any rule nor any family. -/
theorem spoken_failure_hides_rule :
    let failure : ToolFailure := { message := "busy", stderr := some "busy", exitCode := some 4 }
    let ran := LegacyBackend.install ⟨false, false⟩
      (({ tables := familyTables.map .tool, params := .usual } : LegacyBackend),
        contendedMachine [98, 117, 115, 121])
    ran.1 = .error (.iptables failure) ∧
      ∀ table ∈ familyTables, ∀ rule ∈ Iptables.rulesOf ⟨false, false⟩ .usual,
        ¬(" ".intercalate rule.spec).toList <:+: failure.message.toList ∧
        ¬table.family.toList <:+: failure.message.toList ∧
        ¬table.program.toList <:+: failure.message.toList := by
  refine ⟨rfl, ?_⟩
  decide

end PacketDivert
