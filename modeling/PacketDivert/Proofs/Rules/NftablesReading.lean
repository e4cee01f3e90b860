import PacketDivert.Proofs.Rules.Traffic
import PacketDivert.Proofs.Text.Words
import PacketDivert.Rules.Nftables

/-! How nftables understands the lines of a table, and that it understands divert rules as they are
meant. -/

namespace PacketDivert.Nftables

open Text (decimal? split)

/-- Reads a line that defines a name for a number. -/
def readDefinition (line : String) : Option (String × Nat) :=
  match split ' ' line with
  | ["define", body] =>
    match split '=' body with
    | [name, value] => (decimal? value).map (name, ·)
    | _ => none
  | _ => none

/-- A number, or the name of one after a dollar sign. -/
def readValue (definitions : List (String × Nat)) (text : String) : Option Nat :=
  match text.toList with
  | '$' :: name => definitions.lookup (String.ofList name)
  | _ => decimal? text

/-- Reads the words of a rule: tests on the packet, a counter, and what is done to it. In a table
for both address families `ip` means version 4 only. -/
def readWords (definitions : List (String × Nat)) : List String → Option Reading
  | "ip" :: "protocol" :: "tcp" :: rest =>
    (readWords definitions rest).map
      (.provided fun traffic => traffic.family == .ipv4 && traffic.isTcp)
  | "ct" :: "mark" :: value :: rest =>
    match readValue definitions value with
    | none => none
    | some mark =>
      (readWords definitions rest).map (.provided fun traffic => traffic.mark.toNat == mark)
  | "counter" :: rest => readWords definitions rest
  | ["accept"] => some (.always .accept)
  | ["reject", "with", "tcp", "reset"] => some (.always .reset)
  | ["drop"] => some (.always .drop)
  | ["queue", "num", number] =>
    (readValue definitions number).map fun number => .always (.queue number false)
  | ["queue", "num", number, "bypass"] =>
    (readValue definitions number).map fun number => .always (.queue number true)
  | _ => none

/-- The hook that a base chain of the filter priority is attached to. -/
def readHeader (header : String) : Option String :=
  match split ' ' header with
  | ["type", "filter", "hook", hook, "priority", "filter;", "policy", "accept;"] => some hook
  | _ => none

/-- What a table for both address families does to a packet at a hook, if it is understood: the
chain that is attached there decides, and without one the packet goes on. -/
def Listing.fate? (listing : Listing) (hook : Hook) (traffic : Traffic) : Option (Option Fate) :=
  if listing.family = "inet" then
    match listing.definitions.mapM readDefinition with
    | none => none
    | some definitions =>
      match listing.chains.filter fun chain => readHeader chain.header == some hook.name with
      | [] => some none
      | [chain] =>
        (Reading.all? (fun line => readWords definitions (split ' ' line)) chain.rules).map
          (Reading.firstMatch · traffic)
      | _ => none
  else none

theorem readDefinition_text (definition : Definition) :
    readDefinition definition.text = some (definition.symbol.name, definition.value) := by
  obtain ⟨symbol, value⟩ := definition
  have shape : (Definition.mk symbol value).text = "define" ++ String.singleton ' ' ++
      (symbol.name ++ String.singleton '=' ++ value.repr) := by
    have written : (Definition.mk symbol value).text =
        "define " ++ symbol.name ++ "=" ++ value.repr := rfl
    rw [written]
    simp only [String.append_assoc]
    rfl
  have digits (letter : Char) (other : letter.isDigit = false) : letter ∉ value.repr.toList := by
    intro member
    simp [Text.isDigit_of_mem_repr member] at other
  have oneWord : ' ' ∉ (symbol.name ++ String.singleton '=' ++ value.repr).toList := by
    have noBlank := digits ' ' (by decide)
    have noBlankName : ' ' ∉ symbol.name.toList := by cases symbol <;> decide
    simp only [String.toList_append, String.toList_singleton, List.mem_append, noBlankName,
      noBlank, List.mem_singleton, or_false, false_or]
    decide
  have plain : '=' ∉ symbol.name.toList := by cases symbol <;> decide
  have words : split ' ' (Definition.mk symbol value).text =
      ["define", symbol.name ++ String.singleton '=' ++ value.repr] := by
    rw [shape, Text.split_append, Text.split_of_not_mem oneWord]
    rfl
  have sides : split '=' (symbol.name ++ String.singleton '=' ++ value.repr) =
      [symbol.name, value.repr] := by
    rw [Text.split_append, Text.split_of_not_mem plain,
      Text.split_of_not_mem (digits '=' (by decide))]
    rfl
  simp only [readDefinition, words, sides, Text.decimal?_repr, Option.map_some]

def Condition.meets (values : Symbol → Nat) : Condition → Traffic → Bool
  | .tcp, traffic => traffic.family == .ipv4 && traffic.isTcp
  | .mark symbol, traffic => traffic.mark.toNat == values symbol

def Action.fate (values : Symbol → Nat) : Action → Fate
  | .accept => .accept
  | .reset => .reset
  | .drop => .drop
  | .queue symbol => .queue (values symbol) true

def Rule.reading (values : Symbol → Nat) (rule : Rule) : Reading :=
  rule.conditions.foldr (fun condition => .provided (condition.meets values))
    (.always (rule.action.fate values))

theorem split_text (rule : Rule) :
    split ' ' rule.text = rule.conditions.flatMap (fun condition => split ' ' condition.text) ++
      "counter" :: split ' ' rule.action.text := by
  have nonempty : rule.conditions.map Condition.text ++ ["counter", rule.action.text] ≠ [] := by
    simp
  have joined := Text.split_intercalate ' ' nonempty
  rw [List.flatMap_append, List.flatMap_map] at joined
  have counter : split ' ' "counter" = ["counter"] := rfl
  simpa [Rule.text, counter] using joined

section

variable {definitions : List (String × Nat)} {values : Symbol → Nat}
  (defined : ∀ symbol : Symbol, definitions.lookup symbol.name = some (values symbol))

include defined

theorem readValue_symbol (symbol : Symbol) :
    readValue definitions ("$" ++ symbol.name) = some (values symbol) := by
  cases symbol with
  | acceptMark => exact defined .acceptMark
  | dropMark => exact defined .dropMark
  | queue => exact defined .queue

theorem readWords_action (action : Action) :
    readWords definitions (split ' ' action.text) = some (.always (action.fate values)) := by
  cases action with
  | accept => rfl
  | reset => rfl
  | drop => rfl
  | queue symbol =>
    have words : split ' ' (Action.queue symbol).text =
        ["queue", "num", "$" ++ symbol.name, "bypass"] := by cases symbol <;> rfl
    simp [words, readWords, readValue_symbol defined, Action.fate]

theorem readWords_condition (condition : Condition) (rest : List String) :
    readWords definitions (split ' ' condition.text ++ rest) =
      (readWords definitions rest).map (.provided (condition.meets values)) := by
  cases condition with
  | tcp => rfl
  | mark symbol =>
    have words : split ' ' (Condition.mark symbol).text = ["ct", "mark", "$" ++ symbol.name] := by
      cases symbol <;> rfl
    simp only [words, List.cons_append, List.nil_append, readWords, readValue_symbol defined]
    rfl

/-- The line of a rule is read back as what the rule means. -/
theorem readWords_text (rule : Rule) :
    readWords definitions (split ' ' rule.text) = some (rule.reading values) := by
  obtain ⟨conditions, action⟩ := rule
  rw [split_text]
  induction conditions with
  | nil => exact readWords_action defined action
  | cons condition conditions inductionHypothesis =>
    rw [List.flatMap_cons, List.append_assoc, readWords_condition defined, inductionHypothesis]
    rfl

end

/-- The number that each name of a ruleset stands for. -/
def Symbol.value (params : DivertParams) : Symbol → Nat
  | .acceptMark => params.acceptMark.toNat
  | .dropMark => params.dropMark.toNat
  | .queue => params.queue.toNat

theorem lookup_value (params : DivertParams) (symbol : Symbol) :
    List.lookup symbol.name [
        (Symbol.acceptMark.name, params.acceptMark.toNat),
        (Symbol.dropMark.name, params.dropMark.toNat),
        (Symbol.queue.name, params.queue.toNat)] =
      some (symbol.value params) := by
  cases symbol <;> rfl

theorem readHeader_listed (chain : Chain) :
    readHeader chain.listed.header = some chain.hook.name := by
  have words : split ' ' chain.listed.header =
      ["type", "filter", "hook", chain.hook.name, "priority", "filter;", "policy", "accept;"] := by
    obtain ⟨hook, rules⟩ := chain
    cases hook <;> simp only [Chain.listed, Hook.name] <;> rfl
  simp [readHeader, words]

theorem name_injective {hook other : Hook} (same : hook.name = other.name) : hook = other := by
  cases hook <;> cases other <;> first | rfl | exact absurd same (by decide)

theorem divertRuleset_eq_ok {policy : Policy} {params : DivertParams} {ruleset : Ruleset}
    (listed : divertRuleset policy params = .ok ruleset) :
    policy.Coherent ∧ ruleset.definitions = [
        ⟨.acceptMark, params.acceptMark.toNat⟩,
        ⟨.dropMark, params.dropMark.toNat⟩,
        ⟨.queue, params.queue.toNat⟩] ∧
      ruleset.chains = policy.hooks.map (⟨·, divertRules policy.reset⟩) := by
  unfold divertRuleset at listed
  split at listed
  · rename_i coherent
    cases listed
    exact ⟨coherent, rfl, rfl⟩
  · cases listed

theorem firstMatch_divertRules (policy : Policy) (params : DivertParams) (traffic : Traffic) :
    Reading.firstMatch ((divertRules policy.reset).map (Rule.reading (Symbol.value params)))
        traffic =
      some (policy.fate params (fun traffic => traffic.family == .ipv4 && traffic.isTcp)
        traffic) := by
  unfold divertRules Policy.fate
  by_cases accepted : traffic.mark = params.acceptMark
  · simp [Rule.reading, Reading.provided, Reading.always, Condition.meets, Action.fate,
      Symbol.value, accepted]
  · have notAccepted : traffic.mark.toNat ≠ params.acceptMark.toNat :=
      fun same => accepted (UInt32.toNat_inj.mp same)
    by_cases dropped : traffic.mark = params.dropMark
    · have marks : params.dropMark.toNat ≠ params.acceptMark.toNat :=
        fun same => params.marks_ne (UInt32.toNat_inj.mp same.symm)
      have notAccept : params.dropMark ≠ params.acceptMark := params.marks_ne.symm
      cases policy.reset <;> cases family : traffic.family == .ipv4 <;>
        cases tcp : traffic.isTcp <;>
        simp [Rule.reading, Reading.provided, Reading.always, Condition.meets, Action.fate,
          Symbol.value, dropped, marks, notAccept, family, tcp]
    · have notDropped : traffic.mark.toNat ≠ params.dropMark.toNat :=
        fun same => dropped (UInt32.toNat_inj.mp same)
      cases policy.reset <;>
        simp [Rule.reading, Reading.provided, Reading.always, Condition.meets, Action.fate,
          Symbol.value, accepted, dropped, notAccepted, notDropped]

/-- A chain is attached to the hook that it is written for, and to no other. -/
theorem attached_listed (rules : List Rule) (written hook : Hook) :
    (readHeader (Chain.mk written rules).listed.header == some hook.name) =
      decide (written = hook) := by
  rw [readHeader_listed, Bool.eq_iff_iff]
  constructor
  · intro same
    exact decide_eq_true (name_injective (by simpa using same))
  · intro same
    simp [of_decide_eq_true same]

/-- At a hook that a policy diverts stands one chain, the one that is written for it. -/
theorem filter_divertChains {policy : Policy} {hook : Hook} (rules : List Rule)
    (hooked : hook ∈ policy.hooks) :
    ((policy.hooks.map (Chain.mk · rules)).map Chain.listed).filter
        (fun chain => readHeader chain.header == some hook.name) =
      [(Chain.mk hook rules).listed] := by
  unfold Policy.hooks at hooked ⊢
  split
  · rename_i localTraffic
    simp only [localTraffic, ↓reduceIte, List.mem_cons, List.not_mem_nil, or_false] at hooked
    rcases hooked with rfl | rfl <;> simp [attached_listed]
  · rename_i forwarded
    simp only [forwarded, Bool.false_eq_true, ↓reduceIte, List.mem_cons, List.not_mem_nil,
      or_false] at hooked
    simp [hooked, readHeader_listed]

/-- At any other hook stands none. -/
theorem filter_divertChains_of_not_mem {policy : Policy} {hook : Hook} (rules : List Rule)
    (unhooked : hook ∉ policy.hooks) :
    ((policy.hooks.map (Chain.mk · rules)).map Chain.listed).filter
        (fun chain => readHeader chain.header == some hook.name) = [] := by
  apply List.filter_eq_nil_iff.mpr
  intro chain member attached
  simp only [List.map_map, List.mem_map, Function.comp_apply] at member
  obtain ⟨written, present, rfl⟩ := member
  rw [attached_listed] at attached
  exact unhooked (of_decide_eq_true attached ▸ present)

/-- The definitions of a ruleset are read as its numbers. -/
theorem readDefinition_divertRuleset {policy : Policy} {params : DivertParams} {ruleset : Ruleset}
    (listed : divertRuleset policy params = .ok ruleset) :
    ruleset.listing.definitions.mapM readDefinition = some [
      (Symbol.acceptMark.name, params.acceptMark.toNat),
      (Symbol.dropMark.name, params.dropMark.toNat),
      (Symbol.queue.name, params.queue.toNat)] := by
  obtain ⟨_, definitions, _⟩ := divertRuleset_eq_ok listed
  simp only [Ruleset.listing, definitions, List.map_cons, List.map_nil, List.mapM_cons,
    List.mapM_nil, readDefinition_text]
  rfl

theorem fate?_divertRuleset {policy : Policy} {params : DivertParams} {ruleset : Ruleset}
    {hook : Hook} (listed : divertRuleset policy params = .ok ruleset)
    (hooked : hook ∈ policy.hooks) (traffic : Traffic) :
    ruleset.listing.fate? hook traffic =
      some (some (policy.fate params (fun traffic => traffic.family == .ipv4 && traffic.isTcp)
        traffic)) := by
  obtain ⟨_, _, chains⟩ := divertRuleset_eq_ok listed
  have defined := readDefinition_divertRuleset listed
  have attached : ruleset.listing.chains.filter
      (fun chain => readHeader chain.header == some hook.name) =
        [(Chain.mk hook (divertRules policy.reset)).listed] := by
    simp only [Ruleset.listing, chains]
    exact filter_divertChains _ hooked
  have understood := Reading.all?_map
    (fun line => readWords _ (split ' ' line)) Rule.text (readWords_text (lookup_value params))
    (divertRules policy.reset)
  have both : ruleset.listing.family = "inet" := rfl
  simp only [Listing.fate?, both, ↓reduceIte, defined, attached, Chain.listed, understood,
    Option.map_some, firstMatch_divertRules]

theorem fate?_divertRuleset_of_not_mem {policy : Policy} {params : DivertParams}
    {ruleset : Ruleset} {hook : Hook} (listed : divertRuleset policy params = .ok ruleset)
    (unhooked : hook ∉ policy.hooks) (traffic : Traffic) :
    ruleset.listing.fate? hook traffic = some none := by
  obtain ⟨_, _, chains⟩ := divertRuleset_eq_ok listed
  have defined := readDefinition_divertRuleset listed
  have unattached : ruleset.listing.chains.filter
      (fun chain => readHeader chain.header == some hook.name) = [] := by
    simp only [Ruleset.listing, chains]
    exact filter_divertChains_of_not_mem _ unhooked
  have both : ruleset.listing.family = "inet" := rfl
  simp only [Listing.fate?, both, ↓reduceIte, defined, unattached]

end PacketDivert.Nftables
