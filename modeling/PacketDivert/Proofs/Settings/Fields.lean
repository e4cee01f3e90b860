import PacketDivert.Proofs.Settings.Values

namespace PacketDivert.Settings

open Json (Gap Numeral meaning?)

namespace Field

def Content : Field → Type
  | queueSize => UInt32
  | readBuffer => Option UInt64
  | writeBuffer => Option UInt64
  | localTraffic => Bool
  | reset => Bool
  | tableName => String

def get : (field : Field) → Settings → field.Content
  | queueSize, settings => settings.queueSize
  | readBuffer, settings => settings.readBuffer
  | writeBuffer, settings => settings.writeBuffer
  | localTraffic, settings => settings.localTraffic
  | reset, settings => settings.reset
  | tableName, settings => settings.tableName

def put : (field : Field) → field.Content → Settings → Settings
  | queueSize, content, settings => { settings with queueSize := content }
  | readBuffer, content, settings => { settings with readBuffer := content }
  | writeBuffer, content, settings => { settings with writeBuffer := content }
  | localTraffic, content, settings => { settings with localTraffic := content }
  | reset, content, settings => { settings with reset := content }
  | tableName, content, settings => { settings with tableName := content }

/-- What a field holds that is not given. -/
def usual : (field : Field) → field.Content
  | queueSize => (128 : UInt32)
  | readBuffer => (none : Option UInt64)
  | writeBuffer => (none : Option UInt64)
  | localTraffic => false
  | reset => false
  | tableName => "opengfw"

theorem get_default (field : Field) : field.get {} = field.usual := by cases field <;> rfl

theorem get_put (field : Field) (content : field.Content) (settings : Settings) :
    field.get (field.put content settings) = content := by cases field <;> rfl

theorem get_put_of_ne {field other : Field} (different : other ≠ field) (content : field.Content)
    (settings : Settings) : other.get (field.put content settings) = other.get settings := by
  cases field <;> cases other <;> first | rfl | exact absurd rfl different

/-- Settings are what their fields hold. -/
theorem settings_ext {one other : Settings}
    (same : ∀ field : Field, field.get one = field.get other) :
    one = other := by
  obtain ⟨_, _, _, _, _, _⟩ := one
  obtain ⟨_, _, _, _, _, _⟩ := other
  obtain rfl := same .queueSize
  obtain rfl := same .readBuffer
  obtain rfl := same .writeBuffer
  obtain rfl := same .localTraffic
  obtain rfl := same .reset
  obtain rfl := same .tableName
  rfl

/-- Settings with all that their fields are to hold. -/
def assemble (contents : (field : Field) → field.Content) : Settings where
  queueSize := contents queueSize
  readBuffer := contents readBuffer
  writeBuffer := contents writeBuffer
  localTraffic := contents localTraffic
  reset := contents reset
  tableName := contents tableName

theorem get_assemble (contents : (field : Field) → field.Content) (field : Field) :
    field.get (assemble contents) = contents field := by cases field <;> rfl

end Field

/-- A value that is an unsigned integer below a bound. -/
def Json.IsBelow (bound : Nat) (value : Json) : Prop :=
  ∃ numeral number, value = .number numeral ∧ numeral.natural? = some number ∧ number < bound

/-- The values that a field takes. -/
def Field.Fits : Field → Json → Prop
  | .queueSize, value => value.IsBelow UInt32.size
  | .readBuffer, value => value = .null ∨ value.IsBelow UInt64.size
  | .writeBuffer, value => value = .null ∨ value.IsBelow UInt64.size
  | .localTraffic, value => ∃ truth, value = .boolean truth
  | .reset, value => ∃ truth, value = .boolean truth
  | .tableName, value => ∃ pieces letters, value = .string pieces ∧ meaning? pieces = some letters

/-- What a field takes a value for. -/
def Field.content? : (field : Field) → Json → Option field.Content
  | .queueSize, value => (value.below? UInt32.size).map UInt32.ofNat
  | .readBuffer, value => (value.optionalBelow? UInt64.size).map (·.map UInt64.ofNat)
  | .writeBuffer, value => (value.optionalBelow? UInt64.size).map (·.map UInt64.ofNat)
  | .localTraffic, value => value.boolean?
  | .reset, value => value.boolean?
  | .tableName, value => value.string?.map String.ofList

theorem Json.isBelow_iff {bound : Nat} {value : Json} :
    value.IsBelow bound ↔ ∃ number, value.below? bound = some number := by
  constructor
  · rintro ⟨numeral, number, rfl, natural, below⟩
    exact ⟨number, by simp [below?, natural, below]⟩
  · rintro ⟨number, found⟩
    cases value with
    | number numeral =>
      obtain ⟨natural, below⟩ := Option.filter_eq_some_iff.mp found
      exact ⟨numeral, number, rfl, natural, of_decide_eq_true below⟩
    | null | boolean | string | array | object => exact nomatch found

/-- A computation with a result to change has a result. -/
theorem exists_map_eq_some {α β : Type} {result? : Option α} (change : α → β) :
    (∃ changed, result?.map change = some changed) ↔ ∃ result, result? = some result := by
  cases result? <;> simp

theorem Json.optionalBelow?_iff {bound : Nat} {value : Json} :
    (value = .null ∨ value.IsBelow bound) ↔ ∃ number, value.optionalBelow? bound = some number := by
  rw [isBelow_iff]
  cases value with
  | null => simp [optionalBelow?]
  | number | boolean | string | array | object =>
    simp only [reduceCtorEq, false_or]
    exact (exists_map_eq_some some).symm

theorem Json.boolean?_iff {value : Json} :
    (∃ truth, value = .boolean truth) ↔ ∃ truth, value.boolean? = some truth := by
  cases value <;> simp [boolean?]

theorem Json.string?_iff {value : Json} :
    (∃ pieces letters, value = .string pieces ∧ meaning? pieces = some letters) ↔
      ∃ letters, value.string? = some letters := by
  cases value <;> simp [string?]

/-- A field takes the values that fit it. -/
theorem Field.fits_iff {field : Field} {value : Json} :
    field.Fits value ↔ ∃ content, field.content? value = some content := by
  cases field with
  | queueSize => exact Json.isBelow_iff.trans (exists_map_eq_some _).symm
  | readBuffer | writeBuffer => exact Json.optionalBelow?_iff.trans (exists_map_eq_some _).symm
  | localTraffic | reset => exact Json.boolean?_iff
  | tableName => exact Json.string?_iff.trans (exists_map_eq_some _).symm

section Placed

variable {α β : Type} {scanned : Scanned α} {found? : Option α} {rest : List Char}

/-- What is read is put into settings. -/
theorem toOption_placed (read : scanned.toOption = found?.map (·, rest)) (place : α → Settings) :
    (scanned.map fun (value, rest) => (place value, rest)).toOption =
      found?.map fun value => (place value, rest) := by
  have mapped : (scanned.map fun (value, rest) => (place value, rest)).toOption =
      scanned.toOption.map fun (value, rest) => (place value, rest) := by
    cases scanned <;> rfl
  rw [mapped, read, Option.map_map]
  rfl

/-- The same for a value that has to be brought into the form of its field. -/
theorem toOption_placed_map (read : scanned.toOption = found?.map (·, rest)) (content : α → β)
    (place : β → Settings) :
    (scanned.map fun (value, rest) => (place (content value), rest)).toOption =
      (found?.map content).map fun content => (place content, rest) := by
  rw [toOption_placed read fun value => place (content value), Option.map_map]
  rfl

end Placed

/-- A value is read into a field to its end, or it is refused. -/
theorem Field.scan_text (field : Field) (settings : Settings) (gap : Gap) (value : Json)
    {rest : List Char} (ends : Ends rest) :
    (field.scan settings (gap.text ++ (value.text ++ rest))).toOption =
      (field.content? value).map fun content => (field.put content settings, rest) := by
  unfold Field.scan
  rw [skipSpace_gap, skipSpace_text]
  cases field with
  | queueSize =>
    exact toOption_placed_map (scanNatural_text _ (by decide) value ends) UInt32.ofNat
      (queueSize.put · settings)
  | readBuffer =>
    exact toOption_placed_map (scanOptional_text _ (by decide) value ends)
      (Option.map UInt64.ofNat) (readBuffer.put · settings)
  | writeBuffer =>
    exact toOption_placed_map (scanOptional_text _ (by decide) value ends)
      (Option.map UInt64.ofNat) (writeBuffer.put · settings)
  | localTraffic =>
    exact toOption_placed (scanBoolean_text value rest) (localTraffic.put · settings)
  | reset => exact toOption_placed (scanBoolean_text value rest) (reset.put · settings)
  | tableName =>
    exact toOption_placed_map (scanText_text value rest) String.ofList (tableName.put · settings)

end PacketDivert.Settings
