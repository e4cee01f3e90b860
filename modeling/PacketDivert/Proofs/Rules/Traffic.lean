import PacketDivert.Rules.Policy

namespace PacketDivert

inductive AddressFamily where
  | ipv4
  | ipv6
  deriving DecidableEq, Repr

/-- What rules can tell about a packet: its address family, its transport protocol, and the mark of
its connection. -/
structure Traffic where
  family : AddressFamily
  protocol : UInt8
  mark : UInt32
  deriving DecidableEq, Repr

def Traffic.isTcp (traffic : Traffic) : Bool := traffic.protocol == 6

/-- What a rule does to a packet. A queue that nobody listens to lets packets through if it may be
bypassed. -/
inductive Fate where
  | accept
  | reset
  | drop
  | queue (number : Nat) (bypass : Bool)
  deriving DecidableEq, Repr

/-- A rule that has been read: the packets that it takes, and what it does to them. -/
structure Reading where
  takes : Traffic → Bool
  fate : Fate

namespace Reading

def always (fate : Fate) : Reading := ⟨fun _ => true, fate⟩

def provided (test : Traffic → Bool) (reading : Reading) : Reading :=
  { reading with takes := fun traffic => test traffic && reading.takes traffic }

/-- The first rule that takes a packet decides. A packet that no rule takes goes on. -/
def firstMatch (readings : List Reading) (traffic : Traffic) : Option Fate :=
  (readings.find? (·.takes traffic)).map (·.fate)

@[simp] theorem firstMatch_nil (traffic : Traffic) : firstMatch [] traffic = none := rfl

@[simp] theorem firstMatch_cons (reading : Reading) (readings : List Reading) (traffic : Traffic) :
    firstMatch (reading :: readings) traffic =
      if reading.takes traffic then some reading.fate else firstMatch readings traffic := by
  unfold firstMatch
  rw [List.find?_cons]
  cases reading.takes traffic <;> rfl

/-- Reads every line; one that is not understood spoils the whole. -/
def all? {α : Type} (read? : α → Option Reading) (lines : List α) : Option (List Reading) :=
  lines.mapM read?

theorem all?_map {α β : Type} (read? : α → Option Reading) (write : β → α) {meaning : β → Reading}
    (reads : ∀ item, read? (write item) = some (meaning item)) (items : List β) :
    all? read? (items.map write) = some (items.map meaning) := by
  unfold all?
  induction items with
  | nil => rfl
  | cons item items inductionHypothesis =>
    simp only [List.map_cons, List.mapM_cons, reads, inductionHypothesis]
    rfl

end Reading

/-- The fate of diverted traffic: the marks decide, and what carries neither is queued. Dropped
traffic is reset where the policy says so and the dialect can. -/
def Policy.fate (policy : Policy) (params : DivertParams) (resettable : Traffic → Bool)
    (traffic : Traffic) : Fate :=
  if traffic.mark = params.acceptMark then .accept
  else if traffic.mark = params.dropMark then
    if policy.reset && resettable traffic then .reset else .drop
  else .queue params.queue.toNat true

end PacketDivert
