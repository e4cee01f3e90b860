import PacketDivert.Proofs.Rules.IptablesClauses
import PacketDivert.Proofs.Rules.NftablesScript

namespace PacketDivert

open Text (split)

attribute [ext] TableName DivertParams

namespace Nftables

theorem unlines_cons (line : String) (lines : List String) :
    unlines (line :: lines) = line ++ "\n" ++ unlines lines := by
  simp [unlines]

theorem unlines_append (lines more : List String) :
    unlines (lines ++ more) = unlines lines ++ unlines more := by
  simp [unlines]

/-- Lines that hold no line break are the lines of the text, which ends behind the last break. -/
theorem split_unlines {lines : List String} (unbroken : ∀ line ∈ lines, '\n' ∉ line.toList) :
    split '\n' (unlines lines) = lines ++ [""] := by
  induction lines with
  | nil => rfl
  | cons line lines inductionHypothesis =>
    obtain ⟨unbrokenLine, unbrokenRest⟩ := List.forall_mem_cons.mp unbroken
    have broken : unlines (line :: lines) = line ++ String.singleton '\n' ++ unlines lines :=
      unlines_cons line lines
    rw [broken, Text.split_append, Text.split_of_not_mem unbrokenLine,
      inductionHypothesis unbrokenRest]
    rfl

/-- The block of a chain in a script: its header, then its rules in order. -/
def blockLines (chain hook : String) (reset : Bool) : List String :=
  ["",
    "  chain " ++ chain ++ " \x7b",
    "    type filter hook " ++ hook ++ " priority filter; policy accept;",
    "    ct mark $ACCEPT_CTMARK counter accept"] ++
  (if reset then
    ["    ip protocol tcp ct mark $DROP_CTMARK counter reject with tcp reset"]
  else []) ++
  ["    ct mark $DROP_CTMARK counter drop",
    "    counter queue num $QUEUE_NUM bypass",
    "  \x7d"]

/-- The lines of the script of a policy. -/
def divertLines (policy : Policy) (params : DivertParams) : List String :=
  ["",
    "define ACCEPT_CTMARK=" ++ params.acceptMark.toNat.repr,
    "define DROP_CTMARK=" ++ params.dropMark.toNat.repr,
    "define QUEUE_NUM=" ++ params.queue.toNat.repr,
    "",
    "table inet " ++ params.table.text ++ " \x7b"] ++
  (if policy.localTraffic then
    blockLines "INPUT" "input" policy.reset ++ blockLines "OUTPUT" "output" policy.reset
  else blockLines "FORWARD" "forward" policy.reset) ++
  ["", "\x7d"]

/-- The script that diverts what a policy says, as it is handed to the tool. -/
def script (policy : Policy) (params : DivertParams) : Except Error String :=
  (divertRuleset policy params).map (·.listing.text)

theorem text_listed (hook : Hook) (reset : Bool) :
    (Chain.mk hook (divertRules reset)).listed.text =
      unlines (blockLines hook.chain hook.name reset) := by
  cases hook <;> cases reset <;> decide +kernel

theorem blocks_eq (policy : Policy) :
    String.join (((policy.hooks.map (Chain.mk · (divertRules policy.reset))).map Chain.listed).map
        ListedChain.text) =
      unlines (if policy.localTraffic then
        blockLines "INPUT" "input" policy.reset ++ blockLines "OUTPUT" "output" policy.reset
      else blockLines "FORWARD" "forward" policy.reset) := by
  unfold Policy.hooks
  cases policy.localTraffic with
  | false => simp [text_listed, Hook.chain, Hook.name]
  | true => simp [text_listed, Hook.chain, Hook.name, unlines_append]

theorem text_divertRuleset {policy : Policy} {params : DivertParams} {ruleset : Ruleset}
    (listed : divertRuleset policy params = .ok ruleset) :
    ruleset.listing.text = unlines (divertLines policy params) := by
  obtain ⟨_, definitions, chains⟩ := divertRuleset_eq_ok listed
  have preamble : unlines ["", "\n".intercalate (ruleset.definitions.map Definition.text), "",
        "table " ++ family ++ " " ++ ruleset.table.text ++ " \x7b"] =
      unlines ["",
        "define ACCEPT_CTMARK=" ++ params.acceptMark.toNat.repr,
        "define DROP_CTMARK=" ++ params.dropMark.toNat.repr,
        "define QUEUE_NUM=" ++ params.queue.toNat.repr,
        "",
        "table inet " ++ params.table.text ++ " \x7b"] := by
    rw [definitions, table_divertRuleset listed]
    simp only [unlines_cons, List.map_cons, List.map_nil, String.intercalate_cons_cons,
      String.intercalate_singleton, String.append_assoc]
    rfl
  rw [Listing.text, divertLines, unlines_append, unlines_append, ← blocks_eq, ← preamble, ← chains]
  rfl

theorem exists_of_script {policy : Policy} {params : DivertParams} {text : String}
    (written : script policy params = .ok text) :
    ∃ ruleset, divertRuleset policy params = .ok ruleset ∧ ruleset.listing.text = text := by
  unfold script at written
  cases listed : divertRuleset policy params with
  | error fault => simp [listed, Except.map] at written
  | ok ruleset =>
    rw [listed] at written
    exact ⟨ruleset, rfl, Except.ok.inj written⟩

theorem script_eq_ok {policy : Policy} (coherent : policy.Coherent) (params : DivertParams) :
    script policy params = .ok (unlines (divertLines policy params)) := by
  unfold script
  cases listed : divertRuleset policy params with
  | error fault => simp [divertRuleset, coherent] at listed
  | ok ruleset => rw [← text_divertRuleset listed, Except.map]

theorem unbroken_divertLines (policy : Policy) (params : DivertParams) :
    ∀ line ∈ divertLines policy params, '\n' ∉ line.toList := by
  have blocks : ∀ reset, ∀ line ∈ blockLines "INPUT" "input" reset ++
      blockLines "OUTPUT" "output" reset ++ blockLines "FORWARD" "forward" reset,
      '\n' ∉ line.toList := by
    decide +kernel
  have digits (number : Nat) : '\n' ∉ number.repr.toList := Text.not_mem_repr rfl number
  have name := (isWord_tableName params.table).2
  have preamble : ∀ line ∈ ["",
      "define ACCEPT_CTMARK=" ++ params.acceptMark.toNat.repr,
      "define DROP_CTMARK=" ++ params.dropMark.toNat.repr,
      "define QUEUE_NUM=" ++ params.queue.toNat.repr,
      "",
      "table inet " ++ params.table.text ++ " \x7b"], '\n' ∉ line.toList := by
    simp [-Nat.toList_repr, digits, name]
  intro line member
  rcases List.mem_append.mp member with inner | last
  · rcases List.mem_append.mp inner with first | block
    · exact preamble line first
    · refine blocks policy.reset line ?_
      split at block
      · exact List.mem_append_left _ block
      · exact List.mem_append_right _ block
  · simp only [List.mem_cons, List.not_mem_nil, or_false] at last
    rcases last with rfl | rfl <;> decide

theorem split_script {policy : Policy} {params : DivertParams} {text : String}
    (written : script policy params = .ok text) :
    split '\n' text = divertLines policy params ++ [""] := by
  obtain ⟨ruleset, listed, rfl⟩ := exists_of_script written
  rw [text_divertRuleset listed, split_unlines (unbroken_divertLines policy params)]

/-- The letters that a script is built with: breaks of lines, braces, the ends of statements, and
the sign of a variable. -/
def scriptMarks : List Char := ['\n', '\x7b', '\x7d', ';', '$']

/-- A table name brings only its own letters into a script. -/
theorem count_divertLines (policy : Policy) (params : DivertParams) (table : TableName)
    {letter : Char} (foreign : TableName.admits letter = false) :
    (unlines (divertLines policy { params with table })).toList.count letter =
      (unlines (divertLines policy params)).toList.count letter := by
  have absent (name : TableName) : name.text.toList.count letter = 0 :=
    List.count_eq_zero.mpr fun member => by
      simp [List.all_eq_true.mp name.admissible.2 letter member] at foreign
  simp only [divertLines, unlines_append, unlines_cons, String.toList_append, List.count_append,
    absent]

theorem policy_of_chains {policy other : Policy}
    (same : (policy.hooks.map (Chain.mk · (divertRules policy.reset))).map Chain.listed =
      (other.hooks.map (Chain.mk · (divertRules other.reset))).map Chain.listed) :
    policy = other := by
  obtain ⟨localTraffic, reset⟩ := policy
  obtain ⟨otherLocalTraffic, otherReset⟩ := other
  cases localTraffic <;> cases otherLocalTraffic <;> cases reset <;> cases otherReset <;>
    first | rfl | exact absurd same (by decide +kernel)

/-- A script tells what was asked for, since the tool reads it back. -/
theorem script_injective {policy other : Policy} {params otherParams : DivertParams} {text : String}
    (written : script policy params = .ok text) (same : script other otherParams = .ok text) :
    policy = other ∧ params = otherParams := by
  obtain ⟨ruleset, listed, rfl⟩ := exists_of_script written
  obtain ⟨otherRuleset, otherListed, texts⟩ := exists_of_script same
  -- Both are read back from the same text, so every part of one is that part of the other.
  have listings : otherRuleset.listing = ruleset.listing := by
    refine Option.some.inj ?_
    rw [← readScript_divertRuleset listed, ← readScript_divertRuleset otherListed, texts]
  have policies : policy = other := by
    obtain ⟨_, _, chains⟩ := divertRuleset_eq_ok listed
    obtain ⟨_, _, otherChains⟩ := divertRuleset_eq_ok otherListed
    refine policy_of_chains ?_
    rw [← chains, ← otherChains]
    exact (congrArg Listing.chains listings).symm
  have tables : otherParams.table = params.table := by
    rw [← table_divertRuleset listed, ← table_divertRuleset otherListed]
    exact TableName.ext (congrArg Listing.name listings)
  have numbers := readDefinition_divertRuleset listed
  rw [← listings, readDefinition_divertRuleset otherListed] at numbers
  simp only [Option.some.injEq, List.cons.injEq, Prod.mk.injEq, true_and, and_true,
    UInt32.toNat_inj, UInt16.toNat_inj] at numbers
  obtain ⟨acceptMarks, dropMarks, queues⟩ := numbers
  exact ⟨policies, DivertParams.ext queues.symm acceptMarks.symm dropMarks.symm tables.symm⟩

end Nftables

namespace Iptables

/-- The words of a rule: the words for its place, then its arguments. -/
def Rule.words (rule : Rule) : List String := "-t" :: rule.table :: "-A" :: rule.chain :: rule.spec

theorem words_injective {rule other : Rule} (same : rule.words = other.words) : rule = other := by
  obtain ⟨table, chain, spec⟩ := rule
  obtain ⟨otherTable, otherChain, otherSpec⟩ := other
  simpa [Rule.words] using same

theorem split_text {rule : Rule} (filled : rule.spec ≠ [])
    (plain : ∀ word ∈ rule.words, ' ' ∉ word.toList) : split ' ' rule.text = rule.words := by
  have joined : rule.text = (String.singleton ' ').intercalate rule.words := by
    have blank : String.singleton ' ' = " " := rfl
    simp only [Rule.text, Rule.words, String.intercalate_cons_of_ne_nil filled,
      String.intercalate_cons_cons, String.append_assoc, blank]
    rfl
  have nonempty : rule.words ≠ [] := List.cons_ne_nil _ _
  rw [joined, Text.split_intercalate ' ' nonempty]
  calc
    rule.words.flatMap (split ' ') = rule.words.flatMap (fun word => [word]) :=
      List.flatMap_congr fun word member => Text.split_of_not_mem (plain word member)
    _ = rule.words := List.flatMap_singleton' rule.words

theorem plain_words (clause : Clause) : ∀ word ∈ clause.rule.words, ' ' ∉ word.toList := by
  obtain ⟨hook, conditions, target⟩ := clause
  have place : ∀ word ∈ ["-t", "filter", "-A", hook.chain], ' ' ∉ word.toList := by
    cases hook <;> decide
  have tests : ∀ condition ∈ conditions, ∀ word ∈ condition.arguments, ' ' ∉ word.toList := by
    intro condition _
    cases condition with
    | tcp => decide
    | mark value =>
      have value : ' ' ∉ value.toNat.repr.toList := Text.not_mem_repr rfl _
      simpa [Condition.arguments, -Nat.toList_repr] using value
  have verdict : ∀ word ∈ target.arguments, ' ' ∉ word.toList := by
    cases target with
    | accept => decide
    | reset => decide
    | drop => decide
    | queue number =>
      have number : ' ' ∉ number.toNat.repr.toList := Text.not_mem_repr rfl _
      simpa [Target.arguments, -Nat.toList_repr] using number
  intro word member
  have inParts : word ∈ ["-t", "filter", "-A", hook.chain] ++
      (conditions.flatMap Condition.arguments ++ target.arguments) := member
  rcases List.mem_append.mp inParts with first | rest
  · exact place word first
  · rcases List.mem_append.mp rest with test | last
    · obtain ⟨condition, present, found⟩ := List.mem_flatMap.mp test
      exact tests condition present word found
    · exact verdict word last

theorem arguments_injective {target other : Target} (same : target.arguments = other.arguments) :
    target = other := by
  cases target with
  | queue number =>
    cases other with
    | queue otherNumber =>
      have numerals : number.toNat.repr = otherNumber.toNat.repr := by
        simpa [Target.arguments] using same
      rw [UInt16.toNat_inj.mp (Text.repr_inj.mp numerals)]
    | accept => simp [Target.arguments] at same
    | reset => simp [Target.arguments] at same
    | drop => simp [Target.arguments] at same
  | accept => cases other <;> first | rfl | simp [Target.arguments] at same
  | reset => cases other <;> first | rfl | simp [Target.arguments] at same
  | drop => cases other <;> first | rfl | simp [Target.arguments] at same

/-- The arguments of a rule tell its conditions and its target. -/
theorem spec_injective {conditions others : List Condition} {target other : Target}
    (same : conditions.flatMap Condition.arguments ++ target.arguments =
      others.flatMap Condition.arguments ++ other.arguments) :
    conditions = others ∧ target = other := by
  -- The first word tells a condition from a target, and one kind of condition from the other.
  induction conditions generalizing others with
  | nil =>
    cases others with
    | nil => exact ⟨rfl, arguments_injective same⟩
    | cons condition others =>
      cases condition <;> cases target <;> simp [Condition.arguments, Target.arguments] at same
  | cons condition conditions inductionHypothesis =>
    cases others with
    | nil =>
      cases condition <;> cases other <;> simp [Condition.arguments, Target.arguments] at same
    | cons otherCondition others =>
      cases condition with
      | tcp =>
        cases otherCondition with
        | tcp =>
          obtain ⟨rfl, targets⟩ := inductionHypothesis (by simpa [Condition.arguments] using same)
          exact ⟨rfl, targets⟩
        | mark value => simp [Condition.arguments] at same
      | mark value =>
        cases otherCondition with
        | tcp => simp [Condition.arguments] at same
        | mark otherValue =>
          simp only [List.flatMap_cons, Condition.arguments, List.cons_append, List.nil_append,
            List.cons.injEq, true_and] at same
          obtain ⟨values, rest⟩ := same
          obtain ⟨rfl, targets⟩ := inductionHypothesis rest
          exact ⟨by rw [UInt32.toNat_inj.mp (Text.repr_inj.mp values)], targets⟩

theorem rule_injective {clause other : Clause} (same : clause.rule = other.rule) :
    clause = other := by
  obtain ⟨hook, conditions, target⟩ := clause
  obtain ⟨otherHook, otherConditions, otherTarget⟩ := other
  obtain rfl := chain_injective (congrArg Rule.chain same)
  obtain ⟨rfl, rfl⟩ := spec_injective (congrArg Rule.spec same)
  rfl

/-- A rule as it is written tells the clause that it comes from. -/
theorem text_injective {clause other : Clause} (same : clause.rule.text = other.rule.text) :
    clause = other := by
  have filled (clause : Clause) : clause.rule.spec ≠ [] := by
    obtain ⟨hook, conditions, target⟩ := clause
    cases target <;> simp [Clause.rule, Target.arguments]
  refine rule_injective (words_injective ?_)
  rw [← split_text (filled clause) (plain_words clause),
    ← split_text (filled other) (plain_words other), same]

/-- The rules that divert what a policy says, as they are written. -/
def ruleTexts (policy : Policy) (params : DivertParams) : Except Error (List String) :=
  (divertRules policy params).map (·.map Rule.text)

theorem ruleTexts_eq_ok_iff {policy : Policy} {params : DivertParams} {texts : List String} :
    ruleTexts policy params = .ok texts ↔ policy.Coherent ∧
      (policy.hooks.flatMap (hookClauses policy params)).map (·.rule.text) = texts := by
  unfold ruleTexts divertRules divertClauses
  split
  · rename_i coherent
    simp [Except.map, coherent, Function.comp_def]
  · rename_i conflict
    simp [Except.map, conflict]

/-- The clauses of a policy tell everything but the name of a table. -/
theorem clauses_injective {policy other : Policy} {params otherParams : DivertParams}
    (same : policy.hooks.flatMap (hookClauses policy params) =
      other.hooks.flatMap (hookClauses other otherParams)) :
    policy = other ∧ params.queue = otherParams.queue ∧
      params.acceptMark = otherParams.acceptMark ∧ params.dropMark = otherParams.dropMark := by
  obtain ⟨localTraffic, reset⟩ := policy
  obtain ⟨otherLocalTraffic, otherReset⟩ := other
  cases localTraffic <;> cases otherLocalTraffic <;> cases reset <;> cases otherReset <;>
    simp_all [Policy.hooks, hookClauses]

theorem ruleTexts_injective {policy other : Policy} {params otherParams : DivertParams}
    {texts : List String} (written : ruleTexts policy params = .ok texts)
    (same : ruleTexts other otherParams = .ok texts) :
    policy = other ∧ params.queue = otherParams.queue ∧
      params.acceptMark = otherParams.acceptMark ∧ params.dropMark = otherParams.dropMark := by
  obtain ⟨_, rfl⟩ := ruleTexts_eq_ok_iff.mp written
  obtain ⟨_, texts⟩ := ruleTexts_eq_ok_iff.mp same
  exact clauses_injective ((List.map_inj_right fun _ _ => text_injective).mp texts.symm)

end Iptables

/-- The rules of a policy are written in both dialects, and what is written tells what was asked
for: the script all of it, the single rules all but the name of the table. The script consists of
the lines that it is to have, and holds the same breaks of lines, braces, ends of statements and
variables under every other name of its table. -/
theorem rule_texts_determine_request {policy : Policy} (coherent : policy.Coherent)
    (params : DivertParams) :
    ∃ script rules, Nftables.script policy params = .ok script ∧
      Iptables.ruleTexts policy params = .ok rules ∧
      split '\n' script = Nftables.divertLines policy params ++ [""] ∧
      (∀ table, ∃ renamed, Nftables.script policy { params with table } = .ok renamed ∧
        ∀ letter ∈ Nftables.scriptMarks,
          renamed.toList.count letter = script.toList.count letter) ∧
      ∀ other otherParams,
        (Nftables.script other otherParams = .ok script → other = policy ∧ otherParams = params) ∧
        (Iptables.ruleTexts other otherParams = .ok rules →
          other = policy ∧ otherParams.queue = params.queue ∧
            otherParams.acceptMark = params.acceptMark ∧
            otherParams.dropMark = params.dropMark) := by
  have script := Nftables.script_eq_ok coherent params
  have rules : Iptables.ruleTexts policy params = .ok _ :=
    Iptables.ruleTexts_eq_ok_iff.mpr ⟨coherent, rfl⟩
  refine ⟨_, _, script, rules, ?_, ?_, ?_⟩
  · exact Nftables.split_script script
  · intro table
    refine ⟨_, Nftables.script_eq_ok coherent _, ?_⟩
    intro letter mark
    have foreign : Nftables.scriptMarks.all (!TableName.admits ·) = true := by decide
    refine Nftables.count_divertLines policy params table ?_
    simpa using List.all_eq_true.mp foreign letter mark
  · intro other otherParams
    exact ⟨fun same => Nftables.script_injective same script,
      fun same => Iptables.ruleTexts_injective same rules⟩

theorem rule_texts_determine_request_forward :
    (⟨false, true⟩ : Policy).Coherent ∧ ∃ script,
      Nftables.script ⟨false, true⟩ .usual = .ok script ∧
      (split '\n' script)[5]? = some "table inet opengfw \x7b" ∧
      ∀ params, Nftables.script ⟨false, true⟩ params = .ok script → params.queue = 100 := by
  have coherent : (⟨false, true⟩ : Policy).Coherent := by decide
  obtain ⟨script, _, written, _, lines, _, determined⟩ :=
    rule_texts_determine_request coherent .usual
  refine ⟨coherent, script, written, ?_, ?_⟩
  · rw [lines]
    rfl
  · intro params same
    obtain ⟨_, rfl⟩ := (determined ⟨false, true⟩ params).1 same
    rfl

end PacketDivert
