import PacketDivert.Firewall.Lookup
import PacketDivert.Proofs.Text.Decoding
import PacketDivert.Proofs.Text.Words

namespace PacketDivert

open Text (split)

/-- A path leads to a file, through whatever links. -/
def FileSystem.Holds (system : FileSystem) (path : String) : Prop :=
  ∃ node, system.resolve path = .ok node ∧ (node = .program ∨ ∃ content, node = .file content)

theorem FileSystem.isFile_iff {system : FileSystem} {path : String} :
    system.isFile path = true ↔ system.Holds path := by
  unfold isFile Holds
  cases system.resolve path with
  | error fault => simp
  | ok node => cases node <;> simp

namespace Environment

/-- The path of a name below the first directory of the search path in which it is a file. -/
def FirstPlace (environment : Environment) (name path : String) : Prop :=
  ∃ before directory behind, environment.directories = before ++ directory :: behind ∧
    (∀ earlier ∈ before, ¬environment.files.Holds (FileSystem.join earlier name)) ∧
    environment.files.Holds path ∧ path = FileSystem.join directory name

/-- A name is a file in no directory of the search path. -/
def NoPlace (environment : Environment) (name : String) : Prop :=
  ∀ directory ∈ environment.directories,
    ¬environment.files.Holds (FileSystem.join directory name)

/-- A text that is not empty is given in place of the name of a tool. -/
def StandsIn (override : Option Bytes) (program : String) : Prop :=
  program ≠ "" ∧ override = some (Text.Utf8.encode program.toList)

/-- The program for a name: one that stands in for it, or else the name itself if it has a place on
the search path. -/
inductive Choice (environment : Environment) (name : String) (override : Option Bytes) :
    String → Prop where
  | override {program : String} (given : StandsIn override program) :
      Choice environment name override program
  | found {path : String} (free : ∀ program, ¬StandsIn override program)
      (place : environment.FirstPlace name path) : Choice environment name override name

/-- The program that is used for a tool. -/
def Uses (environment : Environment) (tool : Tool) (program : String) : Prop :=
  environment.Choice tool.name (environment.override tool) program

def Lacks (environment : Environment) (tool : Tool) : Prop :=
  ∀ program, ¬environment.Uses tool program

/-- What comes of looking for a backend. -/
inductive Offers (environment : Environment) (params : DivertParams) :
    Except Error RuleBackend → Prop where
  | nftables {program : String} (nft : environment.Uses .nft program) :
      Offers environment params (.ok (.nft { program, params }))
  | iptables {first second : String} (nft : environment.Lacks .nft)
      (iptables : environment.Uses .iptables first)
      (ip6tables : environment.Uses .ip6tables second) :
      Offers environment params (.ok (.legacy {
        tables := [
          .tool { program := first, family := "ipv4" },
          .tool { program := second, family := "ipv6" }]
        params }))
  | noTool (nft : environment.Lacks .nft) (iptables : environment.Lacks .iptables) :
      Offers environment params (.error (.setup "neither nft nor iptables was found in PATH"))
  | noSecondTool {first : String} (nft : environment.Lacks .nft)
      (iptables : environment.Uses .iptables first) (ip6tables : environment.Lacks .ip6tables) :
      Offers environment params
        (.error (.setup "nft not found and ip6tables missing for the iptables backend"))

section

variable {environment : Environment} {name path program : String} {override : Option Bytes}
  {tool : Tool} {params : DivertParams}

theorem find?_eq_some_iff :
    environment.find? name = some path ↔ environment.FirstPlace name path := by
  unfold find? FirstPlace
  rw [List.find?_eq_some_iff_append, FileSystem.isFile_iff]
  constructor
  · rintro ⟨holds, front, back, split, passed⟩
    obtain ⟨before, rest, directories, rfl, met⟩ := List.map_eq_append_iff.mp split
    obtain ⟨directory, behind, rfl, joined, _⟩ := List.map_eq_cons_iff.mp met
    refine ⟨before, directory, behind, directories, fun earlier member found => ?_, holds,
      joined.symm⟩
    have refused := passed _ (List.mem_map_of_mem member)
    rw [FileSystem.isFile_iff.mpr found] at refused
    exact nomatch refused
  · rintro ⟨before, directory, behind, directories, passed, holds, rfl⟩
    refine ⟨holds, before.map (FileSystem.join · name), behind.map (FileSystem.join · name), ?_, ?_⟩
    · rw [directories, List.map_append, List.map_cons]
    · intro place member
      obtain ⟨earlier, listed, rfl⟩ := List.mem_map.mp member
      have refused := mt FileSystem.isFile_iff.mp (passed earlier listed)
      rw [Bool.not_eq_true] at refused
      rw [refused]
      rfl

theorem find?_eq_none_iff : environment.find? name = none ↔ environment.NoPlace name := by
  unfold find? NoPlace
  rw [List.find?_eq_none, List.forall_mem_map]
  exact forall₂_congr fun directory _ => not_congr FileSystem.isFile_iff

theorem overrideText?_eq_some_iff :
    overrideText? override = some program ↔ StandsIn override program := by
  unfold overrideText? StandsIn
  constructor
  · intro read
    cases decoded : override.bind Text.Utf8.decode? with
    | none =>
      rw [decoded] at read
      exact nomatch read
    | some letters =>
      obtain ⟨bytes, rfl, valid⟩ := Option.bind_eq_some_iff.mp decoded
      rw [decoded] at read
      cases letters with
      | nil => exact nomatch read
      | cons letter letters =>
        cases read
        rw [String.toList_ofList]
        refine ⟨fun empty => ?_, congrArg some (Text.Utf8.decode?_eq_some_iff.mp valid)⟩
        have none := congrArg String.toList empty
        rw [String.toList_ofList] at none
        exact nomatch none
  · rintro ⟨filled, rfl⟩
    rw [Option.bind_some, Text.Utf8.decode?_encode]
    cases letters : program.toList with
    | nil => exact absurd (String.toList_eq_nil_iff.mp letters) filled
    | cons letter rest =>
      have whole : String.ofList (letter :: rest) = program := by
        rw [← letters, String.ofList_toList]
      exact congrArg some whole

theorem overrideText?_eq_none_iff :
    overrideText? override = none ↔ ∀ program, ¬StandsIn override program := by
  rw [Option.eq_none_iff_forall_ne_some]
  exact forall_congr' fun program => not_congr overrideText?_eq_some_iff

theorem program?_eq_some_iff :
    environment.program? name override = some program ↔
      environment.Choice name override program := by
  unfold program?
  constructor
  · intro chosen
    cases given : overrideText? override with
    | some other =>
      rw [given] at chosen
      cases chosen
      exact .override (overrideText?_eq_some_iff.mp given)
    | none =>
      rw [given] at chosen
      cases place : environment.find? name with
      | none =>
        rw [place] at chosen
        exact nomatch chosen
      | some path =>
        rw [place] at chosen
        cases chosen
        exact .found (overrideText?_eq_none_iff.mp given) (find?_eq_some_iff.mp place)
  · intro choice
    cases choice with
    | override given => rw [overrideText?_eq_some_iff.mpr given]
    | found free place =>
      rw [overrideText?_eq_none_iff.mpr free, find?_eq_some_iff.mpr place]
      rfl

theorem tool?_eq_some_iff :
    environment.tool? tool = some program ↔ environment.Uses tool program :=
  program?_eq_some_iff

theorem tool?_eq_none_iff : environment.tool? tool = none ↔ environment.Lacks tool := by
  rw [Option.eq_none_iff_forall_ne_some]
  exact forall_congr' fun program => not_congr tool?_eq_some_iff

theorem probe_eq_iff {outcome : Except Error RuleBackend} :
    environment.probe params = outcome ↔ environment.Offers params outcome := by
  unfold probe
  constructor
  · rintro rfl
    cases nft : environment.tool? .nft with
    | some program => exact .nftables (tool?_eq_some_iff.mp nft)
    | none =>
      have nft := tool?_eq_none_iff.mp nft
      cases iptables : environment.tool? .iptables with
      | none => exact .noTool nft (tool?_eq_none_iff.mp iptables)
      | some first =>
        have iptables := tool?_eq_some_iff.mp iptables
        cases ip6tables : environment.tool? .ip6tables with
        | none => exact .noSecondTool nft iptables (tool?_eq_none_iff.mp ip6tables)
        | some second => exact .iptables nft iptables (tool?_eq_some_iff.mp ip6tables)
  · intro offers
    cases offers with
    | nftables nft => rw [tool?_eq_some_iff.mpr nft]
    | iptables nft iptables ip6tables =>
      rw [tool?_eq_none_iff.mpr nft, tool?_eq_some_iff.mpr iptables,
        tool?_eq_some_iff.mpr ip6tables]
    | noTool nft iptables =>
      rw [tool?_eq_none_iff.mpr nft, tool?_eq_none_iff.mpr iptables]
      rfl
    | noSecondTool nft iptables ip6tables =>
      rw [tool?_eq_none_iff.mpr nft, tool?_eq_some_iff.mpr iptables,
        tool?_eq_none_iff.mpr ip6tables]
      rfl

end

/-- The search path with more directories at its end. -/
def appendPath (environment : Environment) (more : List String) : Environment :=
  if more = [] then environment
  else { environment with
    searchPath := some (":".intercalate (environment.searchPath.toList ++ more)) }

/-- A machine on which the search path goes on, with everything else as it is. -/
structure Continues (environment wider : Environment) : Prop where
  files : wider.files = environment.files
  override : wider.override = environment.override
  directories : environment.directories <+: wider.directories

theorem directories_appendPath (environment : Environment) (more : List String) :
    (environment.appendPath more).directories =
      environment.directories ++ more.flatMap (split ':') := by
  unfold appendPath
  split
  · rename_i nothing
    rw [nothing, List.flatMap_nil, List.append_nil]
  · rename_i something
    have joined := Text.split_intercalate ':'
      (List.append_ne_nil_of_right_ne_nil environment.searchPath.toList something)
    unfold directories
    cases path : environment.searchPath with
    | none =>
      rw [path] at joined
      exact joined
    | some path =>
      rw [path] at joined
      exact joined

theorem continues_appendPath (environment : Environment) (more : List String) :
    environment.Continues (environment.appendPath more) where
  files := by
    unfold appendPath
    split <;> rfl
  override := by
    unfold appendPath
    split <;> rfl
  directories := by
    rw [directories_appendPath]
    exact List.prefix_append _ _

namespace Continues

variable {environment wider : Environment} (continues : environment.Continues wider)

include continues

theorem find? {name path : String} (found : environment.find? name = some path) :
    wider.find? name = some path := by
  unfold Environment.find? at found ⊢
  rw [continues.files]
  exact (continues.directories.map _).find?_eq_some found

theorem program? {name program : String} {override : Option Bytes}
    (chosen : environment.program? name override = some program) :
    wider.program? name override = some program := by
  rw [program?_eq_some_iff] at chosen ⊢
  cases chosen with
  | override given => exact .override given
  | found free place =>
    exact .found free (find?_eq_some_iff.mp (continues.find? (find?_eq_some_iff.mpr place)))

theorem uses {tool : Tool} {program : String} (uses : environment.Uses tool program) :
    wider.Uses tool program := by
  rw [← tool?_eq_some_iff, tool?, continues.override]
  exact continues.program? (tool?_eq_some_iff.mpr uses)

/-- A backend that was there is there still, unless nftables comes before it. -/
theorem probe {params : DivertParams} {backend : RuleBackend}
    (probed : environment.probe params = .ok backend) :
    wider.probe params = .ok backend ∨
      backend.kind = .iptables ∧
        ∃ program, wider.probe params = .ok (.nft { program, params }) := by
  cases probe_eq_iff.mp probed with
  | nftables nft => exact .inl (probe_eq_iff.mpr (.nftables (continues.uses nft)))
  | iptables nft iptables ip6tables =>
    by_cases lacks : wider.Lacks .nft
    · exact .inl (probe_eq_iff.mpr
        (.iptables lacks (continues.uses iptables) (continues.uses ip6tables)))
    · obtain ⟨program, nft⟩ := not_forall_not.mp lacks
      exact .inr ⟨rfl, program, probe_eq_iff.mpr (.nftables nft)⟩

end Continues

end Environment

/-- A name is found in the first directory of the search path in which it is a file, a tool is the
program that stands in for it or else its own name if that is found, and nftables comes before
iptables, which needs both of its tools. With more directories at the end of the search path
everything that was found is found in the same place, a backend is there if one was there, and
nftables if it was nftables. -/
theorem tool_selection (environment : Environment) (params : DivertParams) :
    (∀ name path, environment.find? name = some path ↔ environment.FirstPlace name path) ∧
    (∀ name, environment.find? name = none ↔ environment.NoPlace name) ∧
    (∀ name override program, environment.program? name override = some program ↔
      environment.Choice name override program) ∧
    (∀ outcome, environment.probe params = outcome ↔ environment.Offers params outcome) ∧
    ∀ more,
      let wider := environment.appendPath more
      wider.directories = environment.directories ++ more.flatMap (split ':') ∧
      (∀ name path, environment.find? name = some path → wider.find? name = some path) ∧
      ∀ backend, environment.probe params = .ok backend →
        wider.probe params = .ok backend ∨
          backend.kind = .iptables ∧
            ∃ program, wider.probe params = .ok (.nft { program, params }) := by
  refine ⟨fun name path => Environment.find?_eq_some_iff,
    fun name => Environment.find?_eq_none_iff,
    fun name override program => Environment.program?_eq_some_iff,
    fun outcome => Environment.probe_eq_iff, fun more => ?_⟩
  have continues := environment.continues_appendPath more
  exact ⟨environment.directories_appendPath more, fun name path => continues.find?,
    fun backend => continues.probe⟩

end PacketDivert
