import PacketDivert.Firewall.Table
import PacketDivert.Rules.Nftables

namespace PacketDivert

inductive BackendKind where
  | nftables
  | iptables
  deriving DecidableEq, Repr

def BackendKind.name : BackendKind → String
  | .nftables => "nftables"
  | .iptables => "iptables"

def BackendKind.ofName? : String → Option BackendKind
  | "nftables" => some .nftables
  | "iptables" => some .iptables
  | _ => none

/-- The rules in one table of their own, loaded and deleted as a whole. -/
structure NftBackend where
  program : String
  leading : List String := []
  params : DivertParams
  deriving DecidableEq, Repr

namespace NftBackend

/-- A tool that was started takes all of its input, and that it came to an end is learnt. Left out
are the I/O errors of a tool that stops reading early, and of waiting for one in vain. -/
def run (backend : NftBackend) (arguments : List String) (input : Option String) :
    Attempt Error Machine Unit := do
  let output ← (Machine.run {
    program := backend.program
    arguments := backend.leading ++ arguments
    input }).mapError (ToolTable.unstartable backend.program)
  if output.succeeded then pure ()
  else .fail (.nftables (output.failure (" ".intercalate arguments)))

def deleteTable (backend : NftBackend) : Attempt Error Machine Unit :=
  backend.run ["delete", "table", Nftables.family, backend.params.table.text] none

/-- A table left over from before is deleted first; that there may be none is no failure. -/
def install (backend : NftBackend) (policy : Policy) : Attempt Error Machine Unit := do
  let ruleset ← .ofExcept (Nftables.divertRuleset policy backend.params)
  backend.deleteTable.regardless
  backend.run ["-f", "-"] (some ruleset.listing.text)

def remove (backend : NftBackend) (policy : Policy) : Attempt Error Machine Unit := do
  let _ ← .ofExcept (Nftables.divertRuleset policy backend.params)
  backend.deleteTable

end NftBackend

/-- The rules one by one in a table for each address family. -/
structure LegacyBackend where
  tables : List RuleTable
  params : DivertParams
  deriving DecidableEq, Repr

namespace LegacyBackend

/-- Does to each rule in turn what is to be done to it in every table, up to the first failure. -/
def forRules (act : Iptables.Rule → Attempt Error (RuleTable × Machine) Unit) :
    List Iptables.Rule → Attempt Error (List RuleTable × Machine) Unit
  | [] => pure ()
  | rule :: rules => do
    fun (tables, machine) => RuleTable.forEach (act rule) tables machine
    forRules act rules

def apply (act : Iptables.Rule → Attempt Error (RuleTable × Machine) Unit) (policy : Policy) :
    Attempt Error (LegacyBackend × Machine) Unit := fun (backend, machine) =>
  match Iptables.divertRules policy backend.params with
  | .error fault => (.error fault, backend, machine)
  | .ok rules =>
    let (result, tables, machine) := forRules act rules (backend.tables, machine)
    (result, { backend with tables }, machine)

def install (policy : Policy) : Attempt Error (LegacyBackend × Machine) Unit :=
  apply RuleTable.ensurePresent policy

def remove (policy : Policy) : Attempt Error (LegacyBackend × Machine) Unit :=
  apply RuleTable.ensureAbsent policy

end LegacyBackend

inductive RuleBackend where
  | nft (backend : NftBackend)
  | legacy (backend : LegacyBackend)
  deriving DecidableEq, Repr

namespace RuleBackend

def kind : RuleBackend → BackendKind
  | .nft _ => .nftables
  | .legacy _ => .iptables

def params : RuleBackend → DivertParams
  | .nft backend => backend.params
  | .legacy backend => backend.params

def tables : RuleBackend → List RuleTable
  | .nft _ => []
  | .legacy backend => backend.tables

def install (policy : Policy) : Attempt Error (RuleBackend × Machine) Unit
  | (.nft backend, machine) =>
    let (result, machine) := backend.install policy machine
    (result, .nft backend, machine)
  | (.legacy backend, machine) =>
    let (result, backend, machine) := LegacyBackend.install policy (backend, machine)
    (result, .legacy backend, machine)

def remove (policy : Policy) : Attempt Error (RuleBackend × Machine) Unit
  | (.nft backend, machine) =>
    let (result, machine) := backend.remove policy machine
    (result, .nft backend, machine)
  | (.legacy backend, machine) =>
    let (result, backend, machine) := LegacyBackend.remove policy (backend, machine)
    (result, .legacy backend, machine)

/-- Sets the limits of the table with the given number, counting only tables kept in memory. -/
def limit (number : Nat) (limits : TableLimits) : RuleBackend → RuleBackend
  | .nft backend => .nft backend
  | .legacy backend =>
    .legacy { backend with tables := RuleTable.limitMemory limits number backend.tables }

end RuleBackend

end PacketDivert
