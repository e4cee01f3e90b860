import PacketDivert.Proofs.Settings.Documents
import PacketDivert.Proofs.Settings.Loading
import PacketDivert.Proofs.Settings.Spelling
import PacketDivert.Proofs.Text.Encoding

/-! Which documents are accepted, and what settings they give: all that matters of an object is
which values it gives to which fields, and an array is an object without names. -/

namespace PacketDivert.Settings

open Json (Element Member)
open Text (Utf8.encode)

/-- The name and the value of a member. -/
def Json.Member.given (member : Member) : Option (List Char) × Json := (member.name?, member.value)

namespace ObjectText

/-- An object of fields, none of them twice, with values that fit them. -/
structure Acceptable (document : ObjectText) : Prop where
  known : ∀ member ∈ document.members, ∃ field : Field, member.name? = some field.name.toList
  once : (document.members.map Member.name?).Nodup
  fits : ∀ member ∈ document.members, ∀ field : Field,
    member.name? = some field.name.toList → field.Fits member.value

/-- Settings with the values that an object gives, and the usual ones where it gives none. -/
structure Yields (document : ObjectText) (settings : Settings) : Prop where
  given : ∀ member ∈ document.members, ∀ field : Field,
    member.name? = some field.name.toList →
      field.content? member.value = some (field.get settings)
  absent : ∀ field : Field,
    (∀ member ∈ document.members, member.name? ≠ some field.name.toList) →
      field.get settings = field.usual

variable {document : ObjectText} {settings : Settings}

theorem mem_entries_iff {field : Field} {value : Json} :
    (some field, value) ∈ document.entries ↔
      ∃ member ∈ document.members,
        member.name? = some field.name.toList ∧ member.value = value := by
  rw [entries, List.mem_map]
  refine exists_congr fun member => and_congr_right fun _ => ?_
  rw [Member.entry, Prod.mk.injEq, Field.ofKey?_eq_some_iff]
  rfl

theorem known_iff :
    (∀ entry ∈ document.entries, ∃ field ∈ Field.all, entry.1 = some field) ↔
      ∀ member ∈ document.members, ∃ field : Field, member.name? = some field.name.toList := by
  rw [entries, List.forall_mem_map]
  refine forall₂_congr fun member _ => exists_congr fun field => ?_
  rw [Member.entry, Field.ofKey?_eq_some_iff]
  exact and_iff_right (Field.mem_all field)

/-- Members have different names if they name different fields. -/
theorem once_iff
    (known : ∀ member ∈ document.members, ∃ field : Field, member.name? = some field.name.toList) :
    (document.entries.map Prod.fst).Nodup ↔ (document.members.map Member.name?).Nodup := by
  -- Members may spell a name differently, but a field has only one name.
  have names : document.members.map Member.name? =
      (document.entries.map Prod.fst).map (Option.map fun field => field.name.toList) := by
    rw [entries, List.map_map, List.map_map]
    refine List.map_congr_left fun member among => ?_
    obtain ⟨field, named⟩ := known member among
    have found : Field.ofKey? member.key = some field := Field.ofKey?_eq_some_iff.mpr named
    rw [named, Function.comp_apply, Function.comp_apply, Member.entry, found]
    rfl
  rw [names, List.nodup_map_iff (Option.map_injective Field.name_injective)]

theorem acceptable_iff :
    (∃ settings, parse document.text = .ok settings) ↔ document.Acceptable := by
  constructor
  · rintro ⟨settings, parsed⟩
    have assigned := parse_eq_ok_iff.mp parsed
    have known := known_iff.mp assigned.known
    refine ⟨known, (once_iff known).mp assigned.once, fun member among field named => ?_⟩
    have given := assigned.given field _ (mem_entries_iff.mpr ⟨member, among, named, rfl⟩)
    exact Field.fits_iff.mpr ⟨_, given⟩
  · rintro ⟨known, once, fits⟩
    obtain ⟨settings, assigned⟩ := exists_assigned {} (known_iff.mpr known)
      ((once_iff known).mpr once) fun field value present => by
        obtain ⟨member, among, named, rfl⟩ := mem_entries_iff.mp present
        exact fits member among field named
    exact ⟨settings, parse_eq_ok_iff.mpr assigned⟩

theorem yields_of_parse (parsed : parse document.text = .ok settings) :
    document.Yields settings := by
  have assigned := parse_eq_ok_iff.mp parsed
  refine ⟨fun member among field named => ?_, fun field absent => ?_⟩
  · exact assigned.given field _ (mem_entries_iff.mpr ⟨member, among, named, rfl⟩)
  · have kept := assigned.kept field fun present => by
      obtain ⟨⟨_, value⟩, among, rfl⟩ := List.mem_map.mp present
      obtain ⟨member, later, named, -⟩ := mem_entries_iff.mp among
      exact absent member later named
    exact kept.trans (Field.get_default field)

/-- There is nothing that an object leaves open. -/
theorem Yields.unique {other : Settings} (yields : document.Yields settings)
    (others : document.Yields other) : settings = other := by
  refine Field.settings_ext fun field => ?_
  by_cases present : ∃ member ∈ document.members, member.name? = some field.name.toList
  · obtain ⟨member, among, named⟩ := present
    have given := yields.given member among field named
    rw [others.given member among field named] at given
    exact (Option.some.inj given).symm
  · have absent : ∀ member ∈ document.members, member.name? ≠ some field.name.toList :=
      fun member among named => present ⟨member, among, named⟩
    rw [yields.absent field absent, others.absent field absent]

end ObjectText

/-- The entry of what a name gives. -/
def namedEntry : Option (List Char) × Json → Entry
  | (name?, value) => (name?.bind fun name => Field.ofName? (String.ofList name), value)

theorem ObjectText.entries_eq (document : ObjectText) :
    document.entries = (document.members.map Member.given).map namedEntry := by
  rw [List.map_map]
  rfl

/-- Names and values of an object that says the same as an array. -/
def ArrayText.given (document : ArrayText) : List (Option (List Char) × Json) :=
  List.zipWith (fun field element => (some field.name.toList, Element.value element))
    Field.all document.elements

theorem ArrayText.entries_eq (document : ArrayText) :
    document.entries = document.given.map namedEntry := by
  rw [ArrayText.given, List.map_zipWith]
  simp only [namedEntry, Option.bind_some, String.ofList_toList, Field.ofName?_name]
  rfl

theorem assign_perm {entries others : List Entry} (same : entries.Perm others)
    (settings result : Settings) :
    assign Field.all settings entries = some result ↔
      assign Field.all settings others = some result := by
  rw [assign_eq_some_iff Field.all_nodup, assign_eq_some_iff Field.all_nodup]
  exact ⟨fun assigned => assigned.perm same, fun assigned => assigned.perm same.symm⟩

/-- The number 70. -/
def seventy : Json := .number ⟨false, ⟨7, [0]⟩, none, none, nofun⟩

/-- Four fields as an object. -/
def fourFields : ObjectText where
  before := []
  gap := [.space]
  members := [
    .ofField .localTraffic (.boolean true),
    .ofField .writeBuffer .null,
    .ofField .readBuffer .null,
    .mk [.lineFeed] (Json.spelled Field.queueSize.name.toList) [.space] [.tab] seventy [.space]]
  after := [.lineFeed]

/-- The same fields as an array. -/
def fourElements : ArrayText where
  before := [.tab]
  gap := []
  elements := [
    .mk [] seventy [],
    .mk [.space] .null [],
    .mk [.space] .null [.space],
    .mk [] (.boolean true) []]
  after := []

/-- An object is read if its members name fields, no field twice, and have values that fit. It is
read as what these values say, and the order of the members does not matter. An array is read as the
object with its values for the first fields. A file is loaded if its text is read as usable
settings, and such settings are served. -/
theorem accepted_documents :
    (∀ document : ObjectText,
      ((∃ settings, parse document.text = .ok settings) ↔ document.Acceptable) ∧
        ∀ settings, parse document.text = .ok settings ↔
          document.Acceptable ∧ document.Yields settings) ∧
    (∀ (document other : ObjectText) (settings : Settings),
      (document.members.map Member.given).Perm (other.members.map Member.given) →
        (parse document.text = .ok settings ↔ parse other.text = .ok settings)) ∧
    (∀ (array : ArrayText) (object : ObjectText) (settings : Settings),
      array.elements.length ≤ 6 → (object.members.map Member.given).Perm array.given →
        (parse array.text = .ok settings ↔ parse object.text = .ok settings)) ∧
    (∀ (text : List Char) (settings : Settings),
      load (Utf8.encode text) = .ok settings ↔ parse text = .ok settings ∧ settings.Usable) ∧
    ∀ (content : Bytes) (settings : Settings), load content = .ok settings →
      ∃ policy params ruleset rules,
        settings.policy = .ok policy ∧
        DivertParams.usual.withTable settings.tableName = .ok params ∧
        Nftables.divertRuleset policy params = .ok ruleset ∧
        Iptables.divertRules policy params = .ok rules := by
  refine ⟨fun document => ⟨ObjectText.acceptable_iff, fun settings => ?_⟩, ?_, ?_, ?_, ?_⟩
  · constructor
    · exact fun parsed =>
        ⟨ObjectText.acceptable_iff.mp ⟨settings, parsed⟩, ObjectText.yields_of_parse parsed⟩
    · rintro ⟨acceptable, yields⟩
      obtain ⟨read, parsed⟩ := ObjectText.acceptable_iff.mpr acceptable
      rw [parsed, yields.unique (ObjectText.yields_of_parse parsed)]
  · intro document other settings same
    have entries : document.entries.Perm other.entries := by
      rw [ObjectText.entries_eq, ObjectText.entries_eq]
      exact same.map namedEntry
    rw [← toOption_eq_some_iff, ← toOption_eq_some_iff, ObjectText.parse_text,
      ObjectText.parse_text, assign_perm entries]
  · intro array object settings few same
    have entries : array.entries.Perm object.entries := by
      rw [ArrayText.entries_eq, ObjectText.entries_eq]
      exact same.symm.map namedEntry
    rw [← toOption_eq_some_iff, ← toOption_eq_some_iff, ArrayText.parse_text _ few,
      ObjectText.parse_text, assign_perm entries]
  · intro text settings
    rw [load_eq_ok_iff, Text.Utf8.decode?_encode]
    simp only [Option.some.injEq, exists_eq_left', validate_eq_ok_iff]
  · intro content settings loaded
    obtain ⟨text, -, -, checked⟩ := load_eq_ok_iff.mp loaded
    exact (validate_eq_ok_iff.mp checked).served

theorem accepted_documents_four_fields :
    fourFields.Acceptable ∧
    parse fourFields.text = .ok { queueSize := 70, localTraffic := true } ∧
    (fourFields.members.map Member.given).Perm (fourFields.members.reverse.map Member.given) ∧
    parse { fourFields with members := fourFields.members.reverse }.text =
      .ok { queueSize := 70, localTraffic := true } ∧
    fourElements.elements.length ≤ 6 ∧
    (fourFields.members.map Member.given).Perm fourElements.given ∧
    parse fourElements.text = .ok { queueSize := 70, localTraffic := true } ∧
    load (Utf8.encode fourFields.text) = .ok { queueSize := 70, localTraffic := true } ∧
    (Settings.policy { queueSize := 70, localTraffic := true }).isOk = true := by
  obtain ⟨objects, orders, arrays, files, serves⟩ := accepted_documents
  have parsed : parse fourFields.text = .ok { queueSize := 70, localTraffic := true } :=
    toOption_eq_some_iff.mp ((ObjectText.parse_text fourFields).trans (by rfl))
  have reversed : (fourFields.members.map Member.given).Perm
      (fourFields.members.reverse.map Member.given) :=
    (List.reverse_perm fourFields.members).symm.map Member.given
  have listed : (fourFields.members.map Member.given).Perm fourElements.given :=
    reversed
  have usable : Usable { queueSize := 70, localTraffic := true } := validate_eq_ok_iff.mp (by rfl)
  have loaded := (files fourFields.text _).mpr ⟨parsed, usable⟩
  obtain ⟨policy, -, -, -, made, -⟩ := serves _ _ loaded
  exact ⟨(objects fourFields).1.mp ⟨_, parsed⟩, parsed, reversed,
    (orders fourFields { fourFields with members := fourFields.members.reverse } _ reversed).mp
      parsed,
    by decide, listed, (arrays fourElements fourFields _ (by decide) listed).mpr parsed, loaded,
    by rw [made]; rfl⟩

end PacketDivert.Settings
