import PacketDivert.Error

namespace PacketDivert

/-- Which traffic a session diverts, and whether dropped connections are reset: traffic to and
from this host, or forwarded traffic. Resets are for forwarded traffic only. -/
structure Policy where
  localTraffic : Bool
  reset : Bool
  deriving DecidableEq, Repr

inductive Hook where
  | input
  | output
  | forward
  deriving DecidableEq, Repr

def Hook.chain : Hook → String
  | .input => "INPUT"
  | .output => "OUTPUT"
  | .forward => "FORWARD"

def Hook.name : Hook → String
  | .input => "input"
  | .output => "output"
  | .forward => "forward"

namespace Policy

/-- A policy that can be enforced. -/
def Coherent (policy : Policy) : Prop := ¬ (policy.localTraffic = true ∧ policy.reset = true)

instance (policy : Policy) : Decidable policy.Coherent := inferInstanceAs (Decidable (¬ _))

def make (localTraffic reset : Bool) : Except Error Policy :=
  if Coherent ⟨localTraffic, reset⟩ then .ok ⟨localTraffic, reset⟩ else .error .policyConflict

/-- The hooks whose packets are diverted, in the order their chains are written. -/
def hooks (policy : Policy) : List Hook :=
  if policy.localTraffic then [.input, .output] else [.forward]

theorem make_eq_ok_iff {localTraffic reset : Bool} {policy : Policy} :
    make localTraffic reset = .ok policy ↔ policy = ⟨localTraffic, reset⟩ ∧ policy.Coherent := by
  unfold make
  split
  · rename_i coherent
    constructor
    · intro made
      cases made
      exact ⟨rfl, coherent⟩
    · rintro ⟨rfl, _⟩
      rfl
  · rename_i conflict
    constructor
    · intro made
      cases made
    · rintro ⟨rfl, coherent⟩
      exact absurd coherent conflict

end Policy

namespace TableName

/-- A letter of a table name. -/
def admits (letter : Char) : Bool := letter.isAlphanum || letter == '_' || letter == '-'

def Admissible (text : String) : Prop := text ≠ "" ∧ text.toList.all admits = true

instance (text : String) : Decidable (Admissible text) := inferInstanceAs (Decidable (_ ∧ _))

end TableName

/-- The name of the table that holds the divert rules. -/
structure TableName where
  text : String
  admissible : TableName.Admissible text
  deriving DecidableEq, Repr

namespace TableName

def check (text : String) : Except Error TableName :=
  if admissible : Admissible text then .ok ⟨text, admissible⟩
  else .error (.config "table_name"
    s!"'{text}' is not a valid nftables table name (letters, digits, '_' and '-')")

/-- The name used when none is configured. -/
def usual : TableName := ⟨"opengfw", by decide⟩

theorem check_text (name : TableName) : check name.text = .ok name := by
  simp [check, name.admissible]

end TableName

/-- The queue packets are diverted to, and the two connection marks that settle a connection.
An unmarked connection carries mark 0, so neither mark is 0. -/
structure DivertParams where
  queue : UInt16
  acceptMark : UInt32
  dropMark : UInt32
  table : TableName
  acceptMark_ne_zero : acceptMark ≠ 0
  dropMark_ne_zero : dropMark ≠ 0
  marks_ne : acceptMark ≠ dropMark
  deriving DecidableEq, Repr

namespace DivertParams

/-- The table name is checked first, then that no mark is 0, then that the marks differ. -/
def make (queue : UInt16) (acceptMark dropMark : UInt32) (table : String) :
    Except Error DivertParams :=
  match TableName.check table with
  | .error fault => .error fault
  | .ok table =>
    if zero : acceptMark = 0 ∨ dropMark = 0 then
      .error (.config "mark" "connection marks must be non-zero")
    else if equal : acceptMark = dropMark then
      .error (.config "mark" s!"accept and drop marks are both {acceptMark.toNat}")
    else
      .ok {
        queue, acceptMark, dropMark, table
        acceptMark_ne_zero := fun found => zero (.inl found)
        dropMark_ne_zero := fun found => zero (.inr found)
        marks_ne := equal }

/-- The parameters used when none are configured. -/
def usual : DivertParams where
  queue := 100
  acceptMark := 1001
  dropMark := 1002
  table := .usual
  acceptMark_ne_zero := by decide
  dropMark_ne_zero := by decide
  marks_ne := by decide

def withTable (params : DivertParams) (table : String) : Except Error DivertParams :=
  make params.queue params.acceptMark params.dropMark table

theorem make_self (params : DivertParams) :
    make params.queue params.acceptMark params.dropMark params.table.text = .ok params := by
  simp [make, TableName.check_text, params.acceptMark_ne_zero, params.dropMark_ne_zero,
    params.marks_ne]

end DivertParams

end PacketDivert
