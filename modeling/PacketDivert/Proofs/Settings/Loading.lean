import PacketDivert.Proofs.Rules.IptablesClauses
import PacketDivert.Rules.Nftables
import PacketDivert.Settings.Document

namespace PacketDivert.Settings

theorem load_of_parse {content : Bytes} {text : List Char} {settings : Settings}
    (read : Text.Utf8.decode? content = some text) (parsed : parse text = .ok settings) :
    load content = settings.validate.map fun _ => settings := by
  unfold load
  rw [read]
  dsimp only
  rw [parsed]
  dsimp only
  cases settings.validate <;> rfl

theorem load_eq_ok_iff {content : Bytes} {settings : Settings} :
    load content = .ok settings ↔
      ∃ text, Text.Utf8.decode? content = some text ∧ parse text = .ok settings ∧
        settings.validate = .ok () := by
  constructor
  · intro loaded
    unfold load at loaded
    split at loaded
    · cases loaded
    · split at loaded
      · cases loaded
      · split at loaded
        · cases loaded
        · cases loaded
          exact ⟨_, ‹_›, ‹_›, ‹_›⟩
  · rintro ⟨text, read, parsed, checked⟩
    rw [load_of_parse read parsed, checked]
    rfl

/-- A letter, a digit, an underscore or a hyphen. -/
def IsNameLetter (letter : Char) : Prop :=
  ('a' ≤ letter ∧ letter ≤ 'z') ∨ ('A' ≤ letter ∧ letter ≤ 'Z') ∨ ('0' ≤ letter ∧ letter ≤ '9') ∨
    letter = '_' ∨ letter = '-'

/-- Settings that can be put into effect. -/
structure Usable (settings : Settings) : Prop where
  coherent : ¬(settings.localTraffic = true ∧ settings.reset = true)
  named : settings.tableName ≠ ""
  letters : ∀ letter ∈ settings.tableName.toList, IsNameLetter letter

theorem admits_iff {letter : Char} : TableName.admits letter = true ↔ IsNameLetter letter := by
  have upper : letter.isUpper = true ↔ 'A' ≤ letter ∧ letter ≤ 'Z' := decide_eq_true_iff
  have lower : letter.isLower = true ↔ 'a' ≤ letter ∧ letter ≤ 'z' :=
    Bool.and_eq_true_iff.trans (and_congr decide_eq_true_iff decide_eq_true_iff)
  have digit : letter.isDigit = true ↔ '0' ≤ letter ∧ letter ≤ '9' :=
    Bool.and_eq_true_iff.trans (and_congr decide_eq_true_iff decide_eq_true_iff)
  change (letter.isUpper || letter.isLower || letter.isDigit || letter == '_' || letter == '-') =
    true ↔ IsNameLetter letter
  simp only [Bool.or_eq_true, beq_iff_eq, upper, lower, digit, or_assoc, IsNameLetter]
  rw [or_left_comm]

theorem admissible_iff {name : String} :
    TableName.Admissible name ↔ name ≠ "" ∧ ∀ letter ∈ name.toList, IsNameLetter letter := by
  simp only [TableName.Admissible, List.all_eq_true, admits_iff]

theorem validate_eq_ok_iff {settings : Settings} :
    settings.validate = .ok () ↔ settings.Usable := by
  unfold validate TableName.check
  constructor
  · intro checked
    split at checked
    · cases checked
    · rename_i coherent
      split at checked
      · cases checked
      · rename_i named
        split at named
        · rename_i admissible
          obtain ⟨named, letters⟩ := admissible_iff.mp admissible
          exact ⟨by simpa using coherent, named, letters⟩
        · cases named
  · rintro ⟨coherent, named, letters⟩
    have admissible := admissible_iff.mpr ⟨named, letters⟩
    rw [if_neg (by simpa using coherent), dif_pos admissible]

/-- Usable settings are taken by all that they are handed to. -/
theorem Usable.served {settings : Settings} (usable : settings.Usable) :
    ∃ policy params ruleset rules,
      settings.policy = .ok policy ∧
      DivertParams.usual.withTable settings.tableName = .ok params ∧
      Nftables.divertRuleset policy params = .ok ruleset ∧
      Iptables.divertRules policy params = .ok rules := by
  have coherent : Policy.Coherent ⟨settings.localTraffic, settings.reset⟩ := usable.coherent
  have admissible := admissible_iff.mpr ⟨usable.named, usable.letters⟩
  have policy : settings.policy = .ok ⟨settings.localTraffic, settings.reset⟩ := by
    unfold policy
    rw [validate_eq_ok_iff.mpr usable]
    exact Policy.make_eq_ok_iff.mpr ⟨rfl, coherent⟩
  have params : DivertParams.usual.withTable settings.tableName =
      .ok { DivertParams.usual with table := ⟨settings.tableName, admissible⟩ } :=
    DivertParams.make_self { DivertParams.usual with table := ⟨settings.tableName, admissible⟩ }
  exact ⟨_, _, _, _, policy, params, if_pos coherent,
    Iptables.divertRules_eq_ok_iff.mpr ⟨coherent, rfl⟩⟩

end PacketDivert.Settings
