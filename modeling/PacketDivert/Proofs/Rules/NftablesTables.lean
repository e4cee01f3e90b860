import PacketDivert.Proofs.Rules.NftablesScript
import Mathlib.Logic.Function.Basic

/-! The tables that nftables keeps, and what a script makes of them. A rule is kept in words, with
numbers in place of the names that its script defines. -/

namespace PacketDivert.Nftables

open Text (split)

structure KeptChain where
  header : String
  rules : List (List String)
  deriving DecidableEq, Repr

/-- The chains of a table by name. -/
abbrev KeptTable := String → Option KeptChain

/-- All tables by address family and name. -/
abbrev TableStore := String × String → Option KeptTable

def resolveWord (definitions : List (String × Nat)) (word : String) : Option String :=
  match word.toList with
  | '$' :: name => (definitions.lookup (String.ofList name)).map Nat.repr
  | _ => some word

def resolveRule (definitions : List (String × Nat)) (line : String) : Option (List String) :=
  (split ' ' line).mapM (resolveWord definitions)

def ListedChain.kept? (definitions : List (String × Nat)) (chain : ListedChain) :
    Option (String × KeptChain) :=
  (chain.rules.mapM (resolveRule definitions)).map fun rules => (chain.name, ⟨chain.header, rules⟩)

/-- Puts a chain into a table. Its rules come behind those of the chain of that name, if there is
one already. -/
def KeptTable.put (table : KeptTable) (named : String × KeptChain) : KeptTable :=
  Function.update table named.1 <| some <|
    match table named.1 with
    | none => named.2
    | some present => { present with rules := present.rules ++ named.2.rules }

/-- Puts the chains of a listing into the table that it names, which is made if there is none. -/
def Listing.load (listing : Listing) (store : TableStore) : Option TableStore := do
  let definitions ← listing.definitions.mapM readDefinition
  let chains ← listing.chains.mapM (ListedChain.kept? definitions)
  let key := (listing.family, listing.name)
  return Function.update store key
    (some (chains.foldl KeptTable.put ((store key).getD fun _ => none)))

/-- The rules of one table behind those of another, chain by chain. -/
def KeptTable.join (table more : KeptTable) : KeptTable := fun name =>
  match table name, more name with
  | none, added => added
  | some present, none => some present
  | some present, some added => some { present with rules := present.rules ++ added.rules }

/-- Nothing in a table shows up next to what another one adds: it has some of the chains of the
other, without any rules. -/
def KeptTable.YieldsTo (table more : KeptTable) : Prop :=
  ∀ name present, table name = some present →
    present.rules = [] ∧ ∃ added, more name = some added ∧ added.header = present.header

theorem KeptTable.yieldsTo_empty (more : KeptTable) : KeptTable.YieldsTo (fun _ => none) more :=
  nofun

theorem KeptTable.join_eq_right_iff {table more : KeptTable} :
    table.join more = more ↔ table.YieldsTo more := by
  constructor
  · intro same name present found
    have here := congrFun same name
    simp only [KeptTable.join, found] at here
    cases added : more name with
    | none =>
      rw [added] at here
      exact nomatch here
    | some chain =>
      rw [added] at here
      injection here with here
      refine ⟨?_, chain, rfl, ?_⟩
      · simpa using congrArg KeptChain.rules here
      · exact (congrArg KeptChain.header here).symm
  · intro yields
    funext name
    unfold KeptTable.join
    cases found : table name with
    | none => rfl
    | some present =>
      obtain ⟨empty, added, written, header⟩ := yields name present found
      rw [written]
      simp [empty, ← header]

/-- Chains of different names are put in as a table of their own would be joined. -/
theorem KeptTable.foldl_put {chains : List (String × KeptChain)}
    (different : (chains.map (·.1)).Nodup) (table : KeptTable) :
    chains.foldl KeptTable.put table = table.join (chains.lookup ·) := by
  induction chains generalizing table with
  | nil =>
    funext name
    simp only [List.foldl_nil, KeptTable.join, List.lookup_nil]
    cases table name <;> rfl
  | cons named chains inductionHypothesis =>
    obtain ⟨name, chain⟩ := named
    obtain ⟨fresh, differentRest⟩ := List.nodup_cons.mp different
    rw [List.foldl_cons, inductionHypothesis differentRest]
    funext other
    by_cases same : other = name
    · subst same
      have gone : chains.lookup other = none := by
        refine List.lookup_eq_none_iff.mpr fun named member => bne_iff_ne.mpr fun equal => ?_
        exact fresh (List.mem_map.mpr ⟨named, member, equal.symm⟩)
      simp only [KeptTable.join, KeptTable.put, Function.update_self, gone, List.lookup_cons_self]
      cases table other <;> rfl
    · have unequal : (other == name) = false := beq_false_of_ne same
      simp only [KeptTable.join, KeptTable.put, Function.update_of_ne same, List.lookup_cons,
        unequal]

def Condition.words (values : Symbol → Nat) : Condition → List String
  | .tcp => ["ip", "protocol", "tcp"]
  | .mark symbol => ["ct", "mark", (values symbol).repr]

def Action.words (values : Symbol → Nat) : Action → List String
  | .accept => ["accept"]
  | .reset => ["reject", "with", "tcp", "reset"]
  | .drop => ["drop"]
  | .queue symbol => ["queue", "num", (values symbol).repr, "bypass"]

def Rule.words (values : Symbol → Nat) (rule : Rule) : List String :=
  rule.conditions.flatMap (Condition.words values) ++ "counter" :: rule.action.words values

/-- The chain that is kept for a hook. -/
def divertChain (policy : Policy) (params : DivertParams) (hook : Hook) : KeptChain where
  header := s!"type filter hook {hook.name} priority filter; policy accept;"
  rules := (divertRules policy.reset).map (Rule.words (Symbol.value params))

/-- The chains that are kept for a policy, and no others. -/
def divertTable (policy : Policy) (params : DivertParams) : KeptTable :=
  ((policy.hooks.map fun hook => (hook.chain, divertChain policy params hook)).lookup ·)

theorem nodup_divertRules_words (reset : Bool) (values : Symbol → Nat) :
    ((divertRules reset).map (Rule.words values)).Nodup := by
  cases reset <;> simp [divertRules, Rule.words, Condition.words, Action.words]

theorem nodup_rules_divertTable {policy : Policy} {params : DivertParams} {name : String}
    {chain : KeptChain} (found : divertTable policy params name = some chain) :
    chain.rules.Nodup := by
  obtain ⟨before, behind, split, _⟩ := List.lookup_eq_some_iff.mp found
  have member : (name, chain) ∈
      policy.hooks.map fun hook => (hook.chain, divertChain policy params hook) := by
    rw [split]
    exact List.mem_append_right before List.mem_cons_self
  obtain ⟨hook, _, made⟩ := List.mem_map.mp member
  cases made
  exact nodup_divertRules_words policy.reset (Symbol.value params)

section

variable {definitions : List (String × Nat)} {values : Symbol → Nat}
  (defined : ∀ symbol : Symbol, definitions.lookup symbol.name = some (values symbol))

include defined

theorem resolveWord_symbol (symbol : Symbol) :
    resolveWord definitions ("$" ++ symbol.name) = some (values symbol).repr := by
  have letters : ("$" ++ symbol.name).toList = '$' :: symbol.name.toList := by
    simp [String.toList_append]
  rw [resolveWord, letters]
  simp only [String.ofList_toList, defined, Option.map_some]

theorem resolve_condition (condition : Condition) :
    (split ' ' condition.text).mapM (resolveWord definitions) = some (condition.words values) := by
  cases condition with
  | tcp => rfl
  | mark symbol =>
    have words : split ' ' (Condition.mark symbol).text = ["ct", "mark", "$" ++ symbol.name] := by
      cases symbol <;> rfl
    rw [words]
    simp only [List.mapM_cons, List.mapM_nil, resolveWord_symbol defined]
    rfl

theorem resolve_action (action : Action) :
    (split ' ' action.text).mapM (resolveWord definitions) = some (action.words values) := by
  cases action with
  | accept => rfl
  | reset => rfl
  | drop => rfl
  | queue symbol =>
    have words : split ' ' (Action.queue symbol).text =
        ["queue", "num", "$" ++ symbol.name, "bypass"] := by cases symbol <;> rfl
    rw [words]
    simp only [List.mapM_cons, List.mapM_nil, resolveWord_symbol defined]
    rfl

/-- The line of a rule is kept as its words. -/
theorem resolveRule_text (rule : Rule) :
    resolveRule definitions rule.text = some (rule.words values) := by
  obtain ⟨conditions, action⟩ := rule
  rw [resolveRule, split_text, Rule.words]
  induction conditions with
  | nil =>
    have counter : resolveWord definitions "counter" = some "counter" := rfl
    simp only [List.flatMap_nil, List.nil_append, List.mapM_cons, counter, resolve_action defined]
    rfl
  | cons condition conditions inductionHypothesis =>
    simp only [List.flatMap_cons, List.append_assoc]
    rw [List.mapM_append, resolve_condition defined]
    simp only at inductionHypothesis
    rw [inductionHypothesis]
    rfl

theorem kept?_listed (hook : Hook) (rules : List Rule) :
    (Chain.mk hook rules).listed.kept? definitions =
      some (hook.chain, ⟨(Chain.mk hook rules).listed.header, rules.map (Rule.words values)⟩) := by
  have resolved : resolveRule definitions ∘ Rule.text = fun rule => pure (rule.words values) :=
    funext (resolveRule_text defined)
  rw [ListedChain.kept?, Chain.listed, List.mapM_map, resolved, List.mapM_pure]
  rfl

end

theorem nodup_chains (policy : Policy) (params : DivertParams) :
    ((policy.hooks.map fun hook =>
      (hook.chain, divertChain policy params hook)).map (·.1)).Nodup := by
  unfold Policy.hooks
  split <;> simp [Hook.chain]

/-- Loading divert rules joins their table to the one of that name. -/
theorem load_divertRuleset {policy : Policy} {params : DivertParams} {ruleset : Ruleset}
    (listed : divertRuleset policy params = .ok ruleset) (store : TableStore) :
    ruleset.listing.load store =
      some (Function.update store (family, params.table.text)
        (some (KeptTable.join ((store (family, params.table.text)).getD fun _ => none)
          (divertTable policy params)))) := by
  obtain ⟨_, _, chains⟩ := divertRuleset_eq_ok listed
  have chainsKept : ruleset.listing.chains.mapM (ListedChain.kept? [
      (Symbol.acceptMark.name, params.acceptMark.toNat),
      (Symbol.dropMark.name, params.dropMark.toNat),
      (Symbol.queue.name, params.queue.toNat)]) =
        some (policy.hooks.map fun hook => (hook.chain, divertChain policy params hook)) := by
    have kept (hook : Hook) :=
      kept?_listed (lookup_value params) hook (divertRules policy.reset)
    rw [Ruleset.listing, chains, List.map_map, List.mapM_map]
    exact (congrArg (List.mapM · policy.hooks) (funext kept)).trans List.mapM_pure
  have named : ruleset.listing.name = params.table.text :=
    congrArg TableName.text (table_divertRuleset listed)
  have both : ruleset.listing.family = family := rfl
  rw [Listing.load, readDefinition_divertRuleset listed, Option.bind_eq_bind, Option.bind_some,
    chainsKept, Option.bind_eq_bind, Option.bind_some]
  dsimp only
  rw [KeptTable.foldl_put (nodup_chains policy params), named, both]
  rfl

end PacketDivert.Nftables
