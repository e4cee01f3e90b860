import PacketDivert.Proofs.Settings.Documents
import PacketDivert.Proofs.Settings.Loading
import PacketDivert.Proofs.Settings.Spelling
import PacketDivert.Proofs.Text.Encoding

namespace PacketDivert.Settings

open Json (Member)
open Text (Utf8.encode)

def Json.ofSize : Option UInt64 → Json
  | none => .null
  | some size => .number (.ofNat size.toNat)

/-- The value that a field is written with. -/
def Field.written : Field → Settings → Json
  | .queueSize, settings => .number (.ofNat settings.queueSize.toNat)
  | .readBuffer, settings => .ofSize settings.readBuffer
  | .writeBuffer, settings => .ofSize settings.writeBuffer
  | .localTraffic, settings => .boolean settings.localTraffic
  | .reset, settings => .boolean settings.reset
  | .tableName, settings => .string (Json.spelled settings.tableName.toList)

theorem Json.text_ofNat (number : Nat) :
    (Json.number (.ofNat number)).text = Nat.toDigits 10 number := by
  rw [text, Numeral.text_ofNat]

theorem Json.text_ofSize (size : Option UInt64) : (Json.ofSize size).text = writeOptional size := by
  cases size with
  | none => rw [ofSize, text]; rfl
  | some size => exact text_ofNat size.toNat

theorem Json.text_boolean (value : Bool) : (Json.boolean value).text = writeBoolean value := by
  cases value <;> rw [text] <;> rfl

theorem Field.text_written (field : Field) (settings : Settings) :
    (field.written settings).text = field.write settings := by
  cases field with
  | queueSize => exact Json.text_ofNat settings.queueSize.toNat
  | readBuffer => exact Json.text_ofSize settings.readBuffer
  | writeBuffer => exact Json.text_ofSize settings.writeBuffer
  | localTraffic => exact Json.text_boolean settings.localTraffic
  | reset => exact Json.text_boolean settings.reset
  | tableName => rw [written, Json.text, Json.literal_spelled, write]

theorem Field.text_member (field : Field) (settings : Settings) :
    (Member.ofField field (field.written settings)).text = field.writeMember settings := by
  rw [Member.ofField, Member.text, Json.literal_spelled, text_written, writeMember]
  simp [Json.Gap.text]

theorem Json.Member.allText_eq (members : List Member) :
    Member.allText members = [','].intercalate (members.map Member.text) := by
  induction members with
  | nil => rw [allText]; rfl
  | cons member members inductionHypothesis =>
    rw [allText]
    cases members with
    | nil => simp [moreText]
    | cons next members =>
      rw [allText] at inductionHypothesis
      rw [moreText, List.cons_append, inductionHypothesis]
      simp

theorem Json.below?_ofNat {number bound : Nat} (within : number < bound) :
    (Json.number (.ofNat number)).below? bound = some number := by
  rw [below?, Numeral.natural?_ofNat, Option.filter_some, if_pos (decide_eq_true within)]

theorem Json.content_ofNat (size : UInt32) :
    ((Json.number (.ofNat size.toNat)).below? UInt32.size).map UInt32.ofNat = some size := by
  rw [below?_ofNat size.toNat_lt, Option.map_some, UInt32.ofNat_toNat]

theorem Json.content_ofSize (size : Option UInt64) :
    ((Json.ofSize size).optionalBelow? UInt64.size).map (Option.map UInt64.ofNat) = some size := by
  cases size with
  | none => rfl
  | some size =>
    change (((Json.number (.ofNat size.toNat)).below? UInt64.size).map some).map _ = _
    rw [below?_ofNat size.toNat_lt, Option.map_some, Option.map_some, Option.map_some,
      UInt64.ofNat_toNat]

/-- A field takes the value that it is written with for what it holds. -/
theorem Field.content?_written (field : Field) (settings : Settings) :
    field.content? (field.written settings) = some (field.get settings) := by
  cases field with
  | queueSize => exact Json.content_ofNat settings.queueSize
  | readBuffer => exact Json.content_ofSize settings.readBuffer
  | writeBuffer => exact Json.content_ofSize settings.writeBuffer
  | localTraffic | reset => rfl
  | tableName =>
    change (Json.meaning? (Json.spelled settings.tableName.toList)).map String.ofList = _
    rw [Json.meaning?_spelled, Option.map_some, String.ofList_toList]
    rfl

/-- An object with every field. -/
def ObjectText.ofSettings (settings : Settings) : ObjectText where
  before := []
  gap := []
  members := Field.all.map fun field => .ofField field (field.written settings)
  after := []

theorem ObjectText.text_ofSettings (settings : Settings) :
    (ofSettings settings).text = write settings := by
  have members : (Field.all.map fun field => Member.ofField field (field.written settings)).map
      Member.text = Field.all.map (Field.writeMember settings) := by
    rw [List.map_map]
    exact List.map_congr_left fun field _ => Field.text_member field settings
  rw [ObjectText.text, ofSettings, Json.text, Member.allText_eq, members, write]
  simp [Json.Gap.text]

theorem ObjectText.entries_ofSettings (settings : Settings) :
    (ofSettings settings).entries =
      Field.all.map fun field => (some field, field.written settings) := by
  rw [entries, ofSettings, List.map_map]
  refine List.map_congr_left fun field _ => ?_
  have named : Field.ofKey? (Json.spelled field.name.toList) = some field :=
    Field.ofKey?_eq_some_iff.mpr (Json.meaning?_spelled _)
  exact congrArg (·, field.written settings) named

theorem assigned_written (settings : Settings) :
    Assigned Field.all {} (ObjectText.ofSettings settings).entries settings := by
  rw [ObjectText.entries_ofSettings]
  refine ⟨?_, ?_, ?_, ?_⟩
  · rw [List.forall_mem_map]
    exact fun field among => ⟨field, among, rfl⟩
  · rw [List.map_map]
    exact Field.all_nodup.map fun _ _ => Option.some.inj
  · intro field value among
    obtain ⟨other, -, same⟩ := List.mem_map.mp among
    cases same
    exact Field.content?_written field settings
  · intro field absent
    refine absurd ?_ absent
    rw [List.map_map]
    exact List.mem_map.mpr ⟨field, Field.mem_all field, rfl⟩

theorem parse_write (settings : Settings) : parse (write settings) = .ok settings := by
  rw [← ObjectText.text_ofSettings]
  exact ObjectText.parse_eq_ok_iff.mpr (assigned_written settings)

/-- Written settings are read as they were. A file of them is loaded if they can be put into effect,
and refused for the same reason otherwise. -/
theorem written_settings_return (settings : Settings) :
    parse (write settings) = .ok settings ∧
    (load (Utf8.encode (write settings)) = .ok settings ↔ settings.validate = .ok ()) ∧
    ∀ fault, load (Utf8.encode (write settings)) = .error fault ↔
      settings.validate = .error fault := by
  have parsed := parse_write settings
  have loaded := load_of_parse (Text.Utf8.decode?_encode (write settings)) parsed
  refine ⟨parsed, ?_, fun fault => ?_⟩
  · rw [loaded]
    cases settings.validate <;> simp [Except.map]
  · rw [loaded]
    cases settings.validate <;> simp [Except.map]

end PacketDivert.Settings
