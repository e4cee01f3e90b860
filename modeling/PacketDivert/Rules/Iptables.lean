import PacketDivert.Rules.Policy

namespace PacketDivert.Iptables

/-- A rule of a chain, as arguments. -/
structure Rule where
  table : String
  chain : String
  spec : List String
  deriving DecidableEq, Repr

def Rule.text (rule : Rule) : String :=
  "-t " ++ rule.table ++ " -A " ++ rule.chain ++ " " ++ " ".intercalate rule.spec

inductive Condition where
  | tcp
  | mark (value : UInt32)
  deriving DecidableEq, Repr

def Condition.arguments : Condition → List String
  | .tcp => ["-p", "tcp"]
  | .mark value => ["-m", "connmark", "--mark", toString value.toNat]

inductive Target where
  | accept
  | reset
  | drop
  | queue (number : UInt16)
  deriving DecidableEq, Repr

def Target.arguments : Target → List String
  | .accept => ["-j", "ACCEPT"]
  | .reset => ["-j", "REJECT", "--reject-with", "tcp-reset"]
  | .drop => ["-j", "DROP"]
  | .queue number => ["-j", "NFQUEUE", "--queue-num", toString number.toNat, "--queue-bypass"]

/-- What one divert rule means: packets of a hook that meet all conditions go to the target. -/
structure Clause where
  hook : Hook
  conditions : List Condition
  target : Target
  deriving DecidableEq, Repr

def Clause.rule (clause : Clause) : Rule where
  table := "filter"
  chain := clause.hook.chain
  spec := clause.conditions.flatMap Condition.arguments ++ clause.target.arguments

/-- The clauses of one hook. Marked connections are settled before anything is queued, and a
reset comes before the drop that takes what cannot be reset. -/
def hookClauses (policy : Policy) (params : DivertParams) (hook : Hook) : List Clause :=
  [⟨hook, [.mark params.acceptMark], .accept⟩] ++
    (if policy.reset then [⟨hook, [.tcp, .mark params.dropMark], .reset⟩] else []) ++
    [⟨hook, [.mark params.dropMark], .drop⟩, ⟨hook, [], .queue params.queue⟩]

def divertClauses (policy : Policy) (params : DivertParams) : Except Error (List Clause) :=
  if policy.Coherent then .ok (policy.hooks.flatMap (hookClauses policy params))
  else .error .policyConflict

def divertRules (policy : Policy) (params : DivertParams) : Except Error (List Rule) :=
  (divertClauses policy params).map (·.map Clause.rule)

end PacketDivert.Iptables
