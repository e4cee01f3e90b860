import PacketDivert.Proofs.Firewall.ToolTables
import Mathlib.Data.List.ProdSigma

/-! Which calls to tables an install or a removal makes, in which order, and where it stops. Nothing
is assumed of the tables here: what they answer need not fit any contents. -/

namespace PacketDivert

open Iptables (Rule)

/-- What a table says to a call: whether it holds a rule, that it was altered, or what is wrong. -/
inductive Answer where
  | held (found : Bool)
  | altered
  | failed (fault : Error)

namespace Answer

def ofCheck : Except Error Bool → Answer
  | .ok found => .held found
  | .error fault => .failed fault

def ofChange : Except Error Unit → Answer
  | .ok () => .altered
  | .error fault => .failed fault

end Answer

/-- A call to the table at some place, and the answer that it got. -/
structure Visit where
  place : Nat
  operation : TableOperation
  rule : Rule
  answer : Answer

/-- Makes one call to a table. -/
def TableOperation.call (operation : TableOperation) (rule : Rule) (state : RuleTable × Machine) :
    Answer × RuleTable × Machine :=
  match operation with
  | .contains =>
    let (result, reached) := RuleTable.contains rule state
    (.ofCheck result, reached)
  | .append =>
    let (result, reached) := RuleTable.append rule state
    (.ofChange result, reached)
  | .delete =>
    let (result, reached) := RuleTable.delete rule state
    (.ofChange result, reached)

/-- Calls that were made to some tables one after the other, and what they made of the tables and
of the machine. -/
inductive Visited : List Visit → List RuleTable × Machine → List RuleTable × Machine → Prop where
  | done {state} : Visited [] state state
  | call {place operation rule answer visits tables machine table after reached last}
      (there : tables[place]? = some table)
      (called : operation.call rule (table, machine) = (answer, after, reached))
      (rest : Visited visits (tables.set place after, reached) last) :
      Visited (⟨place, operation, rule, answer⟩ :: visits) (tables, machine) last

/-- The calls by which one rule is dealt with in one table: it is asked for, and the table is
altered if, and only if, the answer makes that due. -/
inductive Dealt (change : RuleChange) (rule : Rule) (place : Nat) :
    List Visit → Except Error Unit → Prop where
  | unanswered (fault) :
      Dealt change rule place [⟨place, .contains, rule, .failed fault⟩] (.error fault)
  | settled {found} (idle : change.due found = false) :
      Dealt change rule place [⟨place, .contains, rule, .held found⟩] (.ok ())
  | altered {found} (due : change.due found = true) :
      Dealt change rule place
        [⟨place, .contains, rule, .held found⟩, ⟨place, change.operation, rule, .altered⟩] (.ok ())
  | refused {found} (due : change.due found = true) (fault) :
      Dealt change rule place
        [⟨place, .contains, rule, .held found⟩, ⟨place, change.operation, rule, .failed fault⟩]
        (.error fault)

/-- The calls by which some rules are dealt with in some tables, in the order of the pairs. The
first call that fails is the last one. -/
inductive DealtInTurn (change : RuleChange) :
    List (Rule × Nat) → List Visit → Except Error Unit → Prop where
  | done : DealtInTurn change [] [] (.ok ())
  | next {rule place pairs visits more result} (first : Dealt change rule place visits (.ok ()))
      (rest : DealtInTurn change pairs more result) :
      DealtInTurn change ((rule, place) :: pairs) (visits ++ more) result
  | failed {rule place pairs visits fault} (first : Dealt change rule place visits (.error fault)) :
      DealtInTurn change ((rule, place) :: pairs) visits (.error fault)

theorem Visited.append {visits more : List Visit} {before middle after : List RuleTable × Machine}
    (first : Visited visits before middle) (rest : Visited more middle after) :
    Visited (visits ++ more) before after := by
  induction first with
  | done => exact rest
  | call there called _ inductionHypothesis => exact .call there called (inductionHypothesis rest)

theorem Visited.length_eq {visits : List Visit} {before after : List RuleTable × Machine}
    (visited : Visited visits before after) : after.1.length = before.1.length := by
  induction visited with
  | done => rfl
  | call _ _ _ inductionHypothesis => rw [inductionHypothesis, List.length_set]

namespace DealtInTurn

variable {change : RuleChange} {pairs others : List (Rule × Nat)} {visits more : List Visit}
  {result : Except Error Unit} {fault : Error}

theorem append (first : DealtInTurn change pairs visits (.ok ()))
    (rest : DealtInTurn change others more result) :
    DealtInTurn change (pairs ++ others) (visits ++ more) result := by
  generalize succeeded : Except.ok () = between at first
  induction first with
  | done => exact rest
  | next head _ inductionHypothesis =>
    rw [List.append_assoc]
    exact .next head (inductionHypothesis succeeded)
  | failed => cases succeeded

theorem cut (first : DealtInTurn change pairs visits (.error fault)) (others : List (Rule × Nat)) :
    DealtInTurn change (pairs ++ others) visits (.error fault) := by
  generalize failed : Except.error fault = last at first
  induction first with
  | done => cases failed
  | next head _ inductionHypothesis => exact .next head (inductionHypothesis failed)
  | failed head => exact .failed head

end DealtInTurn

namespace RuleChange

theorem call_operation (change : RuleChange) (rule : Rule) (state : RuleTable × Machine) :
    change.operation.call rule state =
      (.ofChange (change.alter rule state).1, (change.alter rule state).2) := by
  cases change <;> rfl

/-- One rule is dealt with in one table. -/
theorem act_visits (change : RuleChange) (rule : Rule) {tables : List RuleTable} {place : Nat}
    {table : RuleTable} (there : tables[place]? = some table) (machine : Machine) :
    ∃ visits, Dealt change rule place visits (change.act rule (table, machine)).1 ∧
      Visited visits (tables, machine) (tables.set place (change.act rule (table, machine)).2.1,
        (change.act rule (table, machine)).2.2) := by
  rw [act_run]
  rcases asked : RuleTable.contains rule (table, machine) with ⟨fault | found, same, reached⟩
  · have called :
        TableOperation.contains.call rule (table, machine) = (.failed fault, same, reached) := by
      simp only [TableOperation.call, asked, Answer.ofCheck]
    exact ⟨_, .unanswered fault, .call there called .done⟩
  · have called :
        TableOperation.contains.call rule (table, machine) = (.held found, same, reached) := by
      simp only [TableOperation.call, asked, Answer.ofCheck]
    dsimp only
    by_cases due : change.due found = true
    · rw [if_pos due]
      have early : place < tables.length := (List.getElem?_eq_some_iff.mp there).1
      have thereThen : (tables.set place same)[place]? = some same := List.getElem?_set_self early
      have calledThen := change.call_operation rule (same, reached)
      rcases altered : change.alter rule (same, reached) with ⟨fault | done, after, last⟩
      · rw [altered] at calledThen
        refine ⟨_, .refused due fault, .call there called (.call thereThen calledThen ?_)⟩
        rw [List.set_set]
        exact .done
      · rw [altered] at calledThen
        refine ⟨_, .altered due, .call there called (.call thereThen calledThen ?_)⟩
        rw [List.set_set]
        exact .done
    · rw [if_neg due]
      exact ⟨_, .settled (Bool.not_eq_true _ ▸ due), .call there called .done⟩

/-- One rule is dealt with in one table after the other. The tables in front have had their turn. -/
theorem round_visits (change : RuleChange) (rule : Rule) (front tables : List RuleTable)
    (machine : Machine) :
    ∃ visits,
      DealtInTurn change ((List.range' front.length tables.length).map (rule, ·)) visits
        (RuleTable.forEach (change.act rule) tables machine).1 ∧
      Visited visits (front ++ tables, machine)
        (front ++ (RuleTable.forEach (change.act rule) tables machine).2.1,
          (RuleTable.forEach (change.act rule) tables machine).2.2) := by
  induction tables generalizing front machine with
  | nil => exact ⟨[], .done, .done⟩
  | cons table tables inductionHypothesis =>
    have there : (front ++ table :: tables)[front.length]? = some table := by simp
    obtain ⟨visits, dealt, visited⟩ := change.act_visits rule there machine
    rw [RuleTable.forEach]
    rcases acted : change.act rule (table, machine) with ⟨fault | done, after, reached⟩
    · rw [acted] at dealt visited
      refine ⟨visits, .failed dealt, ?_⟩
      simpa using visited
    · rw [acted] at dealt visited
      obtain ⟨more, dealtRest, visitedRest⟩ := inductionHypothesis (front ++ [after]) reached
      refine ⟨visits ++ more, ?_, ?_⟩
      · rw [List.length_cons, List.range'_succ, List.map_cons]
        refine .next dealt ?_
        simpa using dealtRest
      · refine visited.append ?_
        simpa using visitedRest

/-- One rule is dealt with after the other, each in all tables. -/
theorem pass_visits (change : RuleChange) (rules : List Rule) (tables : List RuleTable)
    (machine : Machine) :
    ∃ visits,
      DealtInTurn change (rules ×ˢ List.range tables.length) visits
        (LegacyBackend.forRules change.act rules (tables, machine)).1 ∧
      Visited visits (tables, machine)
        (LegacyBackend.forRules change.act rules (tables, machine)).2 := by
  induction rules generalizing tables machine with
  | nil => exact ⟨[], .done, .done⟩
  | cons rule rules inductionHypothesis =>
    obtain ⟨visits, dealt, visited⟩ := change.round_visits rule [] tables machine
    rw [List.product_cons, LegacyBackend.forRules_cons]
    rw [List.length_nil, ← List.range_eq_range'] at dealt
    rcases round : RuleTable.forEach (change.act rule) tables machine with
      ⟨fault | done, after, reached⟩
    · rw [round] at dealt visited
      exact ⟨visits, dealt.cut _, visited⟩
    · rw [round] at dealt visited
      obtain ⟨more, dealtRest, visitedRest⟩ := inductionHypothesis after reached
      have sameLength : after.length = tables.length := visited.length_eq
      rw [sameLength] at dealtRest
      exact ⟨visits ++ more, dealt.append dealtRest, visited.append visitedRest⟩

end RuleChange

/-! Where the calls went, and what the journal and the tools make of them. -/

/-- What a table is, whatever it holds. -/
inductive TableSite where
  | memory (family : String)
  | tool (table : ToolTable)

def RuleTable.site : RuleTable → TableSite
  | .memory table => .memory table.family
  | .tool table => .tool table

/-- What a tool says by the way it ends. Of a check, only the codes 0 and 1 are answers. -/
inductive ToolSays (table : ToolTable) (rule : Rule) :
    TableOperation → Except SystemError ToolOutput → Answer → Prop where
  | present (stderr) : ToolSays table rule .contains (.ok ⟨.exited 0, stderr⟩) (.held true)
  | absent (stderr) : ToolSays table rule .contains (.ok ⟨.exited 1, stderr⟩) (.held false)
  | unclear (output) (present : output.status ≠ .exited 0) (absent : output.status ≠ .exited 1) :
      ToolSays table rule .contains (.ok output) (.failed (table.failure .contains rule output))
  | altered {operation} (changes : operation ≠ .contains) (stderr) :
      ToolSays table rule operation (.ok ⟨.exited 0, stderr⟩) .altered
  | refused {operation} (changes : operation ≠ .contains) (output)
      (status : output.status ≠ .exited 0) :
      ToolSays table rule operation (.ok output) (.failed (table.failure operation rule output))
  | unstartable (operation cause) :
      ToolSays table rule operation (.error cause)
        (.failed (ToolTable.unstartable table.program cause))

/-- The calls that visits leave in the journal and with the tools, each with the way it ended. -/
inductive Logged (sites : List TableSite) :
    List Visit → List TableCall → List ToolCall → Prop where
  | done : Logged sites [] [] []
  | noted {visit visits entries calls family} (there : sites[visit.place]? = some (.memory family))
      (rest : Logged sites visits entries calls) :
      Logged sites (visit :: visits) (⟨family, visit.operation, visit.rule⟩ :: entries) calls
  | issued {visit visits entries calls table outcome}
      (there : sites[visit.place]? = some (.tool table))
      (told : ToolSays table visit.rule visit.operation outcome visit.answer)
      (rest : Logged sites visits entries calls) :
      Logged sites (visit :: visits) entries
        (⟨table.invocation visit.operation visit.rule, outcome⟩ :: calls)

namespace TableOperation

variable (operation : TableOperation) (rule : Rule)

/-- A call to a table kept in memory is noted, whatever comes of it. -/
theorem call_memory (table : MemoryTable) (machine : Machine) :
    ∃ answer after, after.family = table.family ∧
      operation.call rule (.memory table, machine) =
        (answer, .memory after, machine.record ⟨table.family, operation, rule⟩) := by
  cases operation with
  | contains =>
    refine ⟨_, (MemoryTable.contains rule table).2, ?_, rfl⟩
    rcases MemoryTable.contains_cases rule table with ⟨limits, asked⟩ | refused
    · rw [asked]
    · rw [refused]
  | append =>
    refine ⟨_, (MemoryTable.append rule table).2, ?_, rfl⟩
    rcases MemoryTable.enter_cases .append table with ⟨limits, entered⟩ | refused
    · simp only [MemoryTable.append, bind, entered]
    · simp only [MemoryTable.append, bind, refused]
  | delete =>
    refine ⟨_, (MemoryTable.delete rule table).2, ?_, rfl⟩
    rcases MemoryTable.enter_cases .delete table with ⟨limits, entered⟩ | refused
    · simp only [MemoryTable.delete, bind, entered]
      split <;> rfl
    · simp only [MemoryTable.delete, bind, refused]

end TableOperation

namespace ToolTable

variable (table : ToolTable) (rule : Rule) (machine : Machine)

theorem run_answered (operation : TableOperation) :
    table.run operation rule machine =
      ((machine.tools.answer machine.tools.calls (table.invocation operation rule)).mapError
        (unstartable table.program), machine.called (table.invocation operation rule)) := by
  rw [run, Attempt.mapError_run, Machine.run_eq]
  rfl

theorem contains_says :
    ∃ result,
      ToolSays table rule .contains
        (machine.tools.answer machine.tools.calls (table.invocation .contains rule))
        (.ofCheck result) ∧
      table.contains rule machine =
        (result, machine.called (table.invocation .contains rule)) := by
  have ran := table.run_answered rule machine .contains
  simp only [contains, Attempt.bind_run, ran]
  rcases machine.tools.answer machine.tools.calls (table.invocation .contains rule) with
    cause | ⟨code | ⟨signal, dumped⟩, stderr⟩
  · exact ⟨_, .unstartable .contains cause, rfl⟩
  · by_cases present : code = 0
    · subst present
      exact ⟨.ok true, .present stderr, rfl⟩
    · by_cases absent : code = 1
      · subst absent
        exact ⟨.ok false, .absent stderr, rfl⟩
      · have unclear : ToolSays table rule .contains (.ok ⟨.exited code, stderr⟩) _ :=
          .unclear _ (by simpa using present) (by simpa using absent)
        refine ⟨.error _, unclear, ?_⟩
        simp [Except.mapError, present, absent]
  · exact ⟨_, .unclear ⟨.killed signal dumped, stderr⟩ nofun nofun, rfl⟩

theorem change_says (operation : TableOperation) (changes : operation ≠ .contains) :
    ∃ result,
      ToolSays table rule operation
        (machine.tools.answer machine.tools.calls (table.invocation operation rule))
        (.ofChange result) ∧
      table.change operation rule machine =
        (result, machine.called (table.invocation operation rule)) := by
  have ran := table.run_answered rule machine operation
  simp only [change, Attempt.bind_run, ran]
  rcases machine.tools.answer machine.tools.calls (table.invocation operation rule) with
    cause | ⟨status, stderr⟩
  · exact ⟨_, .unstartable operation cause, rfl⟩
  · by_cases succeeded : status = .exited 0
    · subst succeeded
      exact ⟨.ok (), .altered changes stderr, rfl⟩
    · have refused : ToolSays table rule operation (.ok ⟨status, stderr⟩) _ :=
        .refused changes _ succeeded
      refine ⟨.error _, refused, ?_⟩
      simp [Except.mapError, ToolOutput.succeeded, succeeded]

end ToolTable

/-- A call to a tool is issued, and the way it ends is the answer. -/
theorem TableOperation.call_tool (operation : TableOperation) (rule : Rule) (table : ToolTable)
    (machine : Machine) :
    ∃ answer,
      ToolSays table rule operation
        (machine.tools.answer machine.tools.calls (table.invocation operation rule)) answer ∧
      operation.call rule (.tool table, machine) =
        (answer, .tool table, machine.called (table.invocation operation rule)) := by
  cases operation with
  | contains =>
    obtain ⟨result, told, asked⟩ := table.contains_says rule machine
    exact ⟨_, told, by simp only [call, RuleTable.contains, RuleTable.callTool, asked]⟩
  | append =>
    obtain ⟨result, told, changed⟩ := table.change_says rule machine .append (by decide)
    exact ⟨_, told, by simp only [call, RuleTable.append, RuleTable.callTool, changed]⟩
  | delete =>
    obtain ⟨result, told, changed⟩ := table.change_says rule machine .delete (by decide)
    exact ⟨_, told, by simp only [call, RuleTable.delete, RuleTable.callTool, changed]⟩

/-- A table stays what it is when it is called. -/
theorem TableOperation.site_call {operation : TableOperation} {rule : Rule}
    {table after : RuleTable}
    {machine reached : Machine} {answer : Answer}
    (called : operation.call rule (table, machine) = (answer, after, reached)) :
    after.site = table.site := by
  cases table with
  | memory table =>
    obtain ⟨_, held, family, calledThen⟩ := operation.call_memory rule table machine
    rw [calledThen] at called
    cases called
    exact congrArg TableSite.memory family
  | tool table =>
    obtain ⟨_, _, calledThen⟩ := operation.call_tool rule table machine
    rw [calledThen] at called
    cases called
    rfl

theorem RuleTable.map_site_set {tables : List RuleTable} {place : Nat} {table after : RuleTable}
    (there : tables[place]? = some table) (same : after.site = table.site) :
    (tables.set place after).map site = tables.map site := by
  apply List.ext_getElem?
  intro other
  rw [List.getElem?_map, List.getElem?_map, List.getElem?_set]
  split
  · rename_i here
    subst here
    rw [if_pos (List.getElem?_eq_some_iff.mp there).1, there]
    exact congrArg some same
  · rfl

/-- Each call is noted in the journal or issued to a tool, and nothing else is. -/
theorem Visited.logged {visits : List Visit} {before after : List RuleTable × Machine}
    (visited : Visited visits before after) :
    ∃ entries calls, Logged (before.1.map RuleTable.site) visits entries calls ∧
      after.2 = ⟨{ before.2.tools with calls := before.2.tools.calls ++ calls },
        before.2.journal ++ entries⟩ := by
  induction visited with
  | done => exact ⟨[], [], .done, by simp⟩
  | @call place operation rule answer visits tables machine table after reached last there called _
      inductionHypothesis =>
    obtain ⟨entries, calls, logged, kept⟩ := inductionHypothesis
    rw [RuleTable.map_site_set there (TableOperation.site_call called)] at logged
    have site : (tables.map RuleTable.site)[place]? = some table.site := by
      rw [List.getElem?_map, there, Option.map_some]
    cases table with
    | memory table =>
      obtain ⟨_, held, _, calledThen⟩ := operation.call_memory rule table machine
      rw [calledThen] at called
      cases called
      refine ⟨_, _, .noted site logged, ?_⟩
      simp [kept, Machine.record]
    | tool table =>
      obtain ⟨_, told, calledThen⟩ := operation.call_tool rule table machine
      rw [calledThen] at called
      cases called
      refine ⟨_, _, .issued site told logged, ?_⟩
      simp [kept, Machine.called, ToolHost.run]

/-! What comes of the calls. -/

def Visit.fault? (visit : Visit) : Option Error :=
  match visit.answer with
  | .failed fault => some fault
  | _ => none

/-- The fault of the first call that failed. -/
def outcomeOf (visits : List Visit) : Except Error Unit :=
  match visits.findSome? Visit.fault? with
  | some fault => .error fault
  | none => .ok ()

/-- Nothing comes after a call that failed. -/
def StopAtFault (visits : List Visit) : Prop :=
  visits.Pairwise fun visit _ => visit.fault? = none

namespace Dealt

variable {change : RuleChange} {rule : Rule} {place : Nat} {visits : List Visit}
  {result : Except Error Unit} {fault : Error}

theorem answered (dealt : Dealt change rule place visits (.ok ())) :
    ∀ visit ∈ visits, visit.fault? = none := by
  cases dealt <;> simp [Visit.fault?]

theorem outcome (dealt : Dealt change rule place visits result) :
    StopAtFault visits ∧ outcomeOf visits = result := by
  cases dealt <;> exact ⟨by simp [StopAtFault, Visit.fault?], rfl⟩

end Dealt

theorem DealtInTurn.outcome {change : RuleChange} {pairs : List (Rule × Nat)} {visits : List Visit}
    {result : Except Error Unit} (dealt : DealtInTurn change pairs visits result) :
    StopAtFault visits ∧ outcomeOf visits = result := by
  induction dealt with
  | done => exact ⟨.nil, rfl⟩
  | next first _ inductionHypothesis =>
    obtain ⟨stops, same⟩ := inductionHypothesis
    constructor
    · refine List.pairwise_append.mpr ⟨first.outcome.1, stops, ?_⟩
      exact fun visit member _ _ => first.answered visit member
    · have none := List.findSome?_eq_none_iff.mpr first.answered
      rw [← same, outcomeOf, List.findSome?_append, none, Option.none_or]
      rfl
  | failed first => exact first.outcome

/-- A call to a tool that ended with an answer: the exit code 0, or the code 1 of a check. -/
def ToolCall.Answered (call : ToolCall) : Prop :=
  ∃ stderr, call.outcome = .ok ⟨.exited 0, stderr⟩ ∨
    call.outcome = .ok ⟨.exited 1, stderr⟩ ∧
      ∃ table rule, call.invocation = ToolTable.invocation table .contains rule

theorem ToolSays.answered {table : ToolTable} {operation : TableOperation} {rule : Rule}
    {outcome : Except SystemError ToolOutput} {answer : Answer}
    (told : ToolSays table rule operation outcome answer)
    (succeeded : ∀ fault, answer ≠ .failed fault) :
    ToolCall.Answered ⟨table.invocation operation rule, outcome⟩ := by
  cases told with
  | present stderr => exact ⟨stderr, .inl rfl⟩
  | absent stderr => exact ⟨stderr, .inr ⟨rfl, table, rule, rfl⟩⟩
  | altered changes stderr => exact ⟨stderr, .inl rfl⟩
  | unclear | refused | unstartable => exact absurd rfl (succeeded _)

/-- If nothing comes after a call that failed, then no tool is called any more either. -/
theorem Logged.answered {sites : List TableSite} {visits : List Visit} {entries : List TableCall}
    {calls : List ToolCall} (logged : Logged sites visits entries calls)
    (stops : StopAtFault visits) : calls.Pairwise fun call _ => call.Answered := by
  induction logged with
  | done => exact .nil
  | noted _ _ inductionHypothesis => exact inductionHypothesis (List.pairwise_cons.mp stops).2
  | @issued visit visits entries calls table outcome there told rest inductionHypothesis =>
    obtain ⟨first, stopsRest⟩ := List.pairwise_cons.mp stops
    refine List.pairwise_cons.mpr ⟨fun later member => ?_, inductionHypothesis stopsRest⟩
    cases visits with
    | nil =>
      cases rest
      exact absurd member List.not_mem_nil
    | cons next visits =>
      have faultless : visit.fault? = none := first next List.mem_cons_self
      refine told.answered fun fault failed => ?_
      simp [Visit.fault?, failed] at faultless

/-- What an install or a removal calls. For a policy that cannot be, it calls nothing. Otherwise it
asks each table in turn for one rule before it goes on with the next rule, and alters a table right
after it answered that this is due. The first call that fails is the last one, and its fault is the
result. Of a tool's check only the exit codes 0 and 1 are answers: after any other end, be it a
signal or that the tool cannot be started, no tool is called again. References to tables between
change nothing. -/
theorem check_then_act (change : RuleChange) (policy : Policy) (backend : LegacyBackend)
    (machine : Machine) (depth : RuleTable → Nat) :
    let ran := LegacyBackend.apply (TableCalls.actBehind depth change) policy (backend, machine)
    ran = change.use.perform policy (backend, machine) ∧
    (¬policy.Coherent ∧ ran = (.error .policyConflict, backend, machine) ∨
      policy.Coherent ∧ ∃ visits entries calls,
        DealtInTurn change
          (Iptables.rulesOf policy backend.params ×ˢ List.range backend.tables.length)
          visits ran.1 ∧
        Visited visits (backend.tables, machine) (ran.2.1.tables, ran.2.2) ∧
        StopAtFault visits ∧
        ran.1 = outcomeOf visits ∧
        Logged (backend.tables.map RuleTable.site) visits entries calls ∧
        ran.2.2 = ⟨{ machine.tools with calls := machine.tools.calls ++ calls },
          machine.journal ++ entries⟩ ∧
        calls.Pairwise fun call _ => call.Answered) := by
  intro ran
  have unreferenced : ran = LegacyBackend.apply change.act policy (backend, machine) :=
    congrArg (fun act => LegacyBackend.apply act policy (backend, machine))
      (TableCalls.actBehind_eq depth change)
  refine ⟨unreferenced.trans (congrFun (change.perform_use policy).symm _), ?_⟩
  by_cases coherent : policy.Coherent
  · refine .inr ⟨coherent, ?_⟩
    obtain ⟨rules, listed⟩ : ∃ rules, Iptables.divertRules policy backend.params = .ok rules := by
      simp [Iptables.divertRules, Iptables.divertClauses, coherent, Except.map]
    obtain ⟨visits, dealt, visited⟩ := change.pass_visits rules backend.tables machine
    obtain ⟨entries, calls, logged, kept⟩ := visited.logged
    obtain ⟨stops, same⟩ := dealt.outcome
    rw [unreferenced, LegacyBackend.apply]
    simp only [listed, Iptables.rulesOf_eq listed]
    exact ⟨visits, entries, calls, dealt, visited, stops, same.symm, logged, kept,
      logged.answered stops⟩
  · refine .inl ⟨coherent, ?_⟩
    have unlisted : Iptables.divertRules policy backend.params = .error .policyConflict := by
      simp [Iptables.divertRules, Iptables.divertClauses, coherent, Except.map]
    rw [unreferenced, LegacyBackend.apply]
    simp only [unlisted]

end PacketDivert
