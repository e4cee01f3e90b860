import PacketDivert.Rules.Policy

/-! Divert rules for nftables: a ruleset of three definitions and one chain per hook, and its
listing, the text that the tool loads. -/

namespace PacketDivert.Nftables

/-- The names that a ruleset defines for its numbers. -/
inductive Symbol where
  | acceptMark
  | dropMark
  | queue
  deriving DecidableEq, Repr

def Symbol.name : Symbol → String
  | .acceptMark => "ACCEPT_CTMARK"
  | .dropMark => "DROP_CTMARK"
  | .queue => "QUEUE_NUM"

structure Definition where
  symbol : Symbol
  value : Nat
  deriving DecidableEq, Repr

def Definition.text (definition : Definition) : String :=
  s!"define {definition.symbol.name}={definition.value}"

inductive Condition where
  | tcp
  | mark (symbol : Symbol)
  deriving DecidableEq, Repr

def Condition.text : Condition → String
  | .tcp => "ip protocol tcp"
  | .mark symbol => s!"ct mark ${symbol.name}"

inductive Action where
  | accept
  | reset
  | drop
  | queue (symbol : Symbol)
  deriving DecidableEq, Repr

def Action.text : Action → String
  | .accept => "accept"
  | .reset => "reject with tcp reset"
  | .drop => "drop"
  | .queue symbol => s!"queue num ${symbol.name} bypass"

/-- A rule acts on the packets that meet all of its conditions. -/
structure Rule where
  conditions : List Condition
  action : Action
  deriving DecidableEq, Repr

def Rule.text (rule : Rule) : String :=
  " ".intercalate (rule.conditions.map Condition.text ++ ["counter", rule.action.text])

structure Chain where
  hook : Hook
  rules : List Rule
  deriving DecidableEq, Repr

structure Ruleset where
  definitions : List Definition
  table : TableName
  chains : List Chain
  deriving DecidableEq, Repr

/-- Marked connections are settled before anything is queued, and a reset comes before the drop
that takes what cannot be reset. -/
def divertRules (reset : Bool) : List Rule :=
  [⟨[.mark .acceptMark], .accept⟩] ++
    (if reset then [⟨[.tcp, .mark .dropMark], .reset⟩] else []) ++
    [⟨[.mark .dropMark], .drop⟩, ⟨[], .queue .queue⟩]

def divertRuleset (policy : Policy) (params : DivertParams) : Except Error Ruleset :=
  if policy.Coherent then
    .ok {
      definitions := [
        ⟨.acceptMark, params.acceptMark.toNat⟩,
        ⟨.dropMark, params.dropMark.toNat⟩,
        ⟨.queue, params.queue.toNat⟩]
      table := params.table
      chains := policy.hooks.map (⟨·, divertRules policy.reset⟩) }
  else
    .error .policyConflict

/-- A chain as it is written. -/
structure ListedChain where
  name : String
  header : String
  rules : List String
  deriving DecidableEq, Repr

/-- A table as it is written, after its definitions. -/
structure Listing where
  definitions : List String
  family : String
  name : String
  chains : List ListedChain
  deriving DecidableEq, Repr

/-- The address family of the table: both versions of IP. -/
def family : String := "inet"

def Chain.listed (chain : Chain) : ListedChain where
  name := chain.hook.chain
  header := s!"type filter hook {chain.hook.name} priority filter; policy accept;"
  rules := chain.rules.map Rule.text

def Ruleset.listing (ruleset : Ruleset) : Listing where
  definitions := ruleset.definitions.map Definition.text
  family := family
  name := ruleset.table.text
  chains := ruleset.chains.map Chain.listed

def unlines (lines : List String) : String := String.join (lines.map (· ++ "\n"))

def ListedChain.text (chain : ListedChain) : String :=
  unlines [
    "",
    "  chain " ++ chain.name ++ " \x7b",
    "    " ++ chain.header,
    "    " ++ "\n    ".intercalate chain.rules,
    "  \x7d"]

def Listing.text (listing : Listing) : String :=
  unlines [
    "",
    "\n".intercalate listing.definitions,
    "",
    "table " ++ listing.family ++ " " ++ listing.name ++ " \x7b"] ++
  String.join (listing.chains.map ListedChain.text) ++
  unlines ["", "\x7d"]

end PacketDivert.Nftables
