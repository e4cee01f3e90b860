import Mathlib.Data.List.Nodup
import PacketDivert.Proofs.Settings.Fields

/-! Values that are given to fields one after another. What comes of it is the same in any order:
fields hold the values given to them, and no field is given two. -/

namespace PacketDivert.Settings

/-- A value with the field that is to take it; none if there is no such field. -/
abbrev Entry : Type := Option Field × Json

/-- Gives each of the entries' values to its field, which is then no longer missing. -/
def assign (missing : List Field) (settings : Settings) : List Entry → Option Settings
  | [] => some settings
  | (field?, value) :: entries =>
    (field?.filter (· ∈ missing)).bind fun field =>
      (field.content? value).bind fun content =>
        assign (missing.erase field) (field.put content settings) entries

/-- What settings are once the entries' values were given to them, whatever the order. -/
structure Assigned (missing : List Field) (settings : Settings) (entries : List Entry)
    (result : Settings) : Prop where
  known : ∀ entry ∈ entries, ∃ field ∈ missing, entry.1 = some field
  once : (entries.map Prod.fst).Nodup
  given : ∀ field value, (some field, value) ∈ entries →
    field.content? value = some (field.get result)
  kept : ∀ field, some field ∉ entries.map Prod.fst → field.get result = field.get settings

namespace Assigned

variable {missing : List Field} {settings result : Settings} {entries : List Entry}

theorem perm {others : List Entry} (assigned : Assigned missing settings entries result)
    (same : entries.Perm others) : Assigned missing settings others result where
  known entry among := assigned.known entry (same.mem_iff.mpr among)
  once := (same.map Prod.fst).nodup_iff.mp assigned.once
  given field value among := assigned.given field value (same.mem_iff.mpr among)
  kept field absent :=
    assigned.kept field fun among => absent ((same.map Prod.fst).mem_iff.mp among)

theorem nil : Assigned missing settings [] settings where
  known _ among := nomatch among
  once := List.nodup_nil
  given _ _ among := nomatch among
  kept _ _ := rfl

theorem nil_iff : Assigned missing settings [] result ↔ result = settings := by
  constructor
  · exact fun assigned => Field.settings_ext fun field => assigned.kept field List.not_mem_nil
  · rintro rfl
    exact nil

variable {field : Field} {value : Json}

theorem cons (distinct : missing.Nodup) (missed : field ∈ missing) {content : field.Content}
    (fits : field.content? value = some content)
    (assigned : Assigned (missing.erase field) (field.put content settings) entries result) :
    Assigned missing settings ((some field, value) :: entries) result := by
  have fresh : some field ∉ entries.map Prod.fst := by
    intro among
    obtain ⟨entry, later, same⟩ := List.mem_map.mp among
    obtain ⟨other, left, named⟩ := assigned.known entry later
    obtain rfl := Option.some.inj (same.symm.trans named)
    exact distinct.not_mem_erase left
  have holds : field.get result = content :=
    (assigned.kept field fresh).trans (Field.get_put field content settings)
  refine ⟨?_, ?_, ?_, ?_⟩
  · rw [List.forall_mem_cons]
    refine ⟨⟨field, missed, rfl⟩, fun entry later => ?_⟩
    obtain ⟨other, left, named⟩ := assigned.known entry later
    exact ⟨other, List.mem_of_mem_erase left, named⟩
  · exact List.nodup_cons.mpr ⟨fresh, assigned.once⟩
  · intro other given among
    rcases List.mem_cons.mp among with same | later
    · cases same
      rw [fits, holds]
    · exact assigned.given other given later
  · intro other absent
    rw [List.map_cons, List.mem_cons, not_or] at absent
    obtain ⟨different, absent⟩ := absent
    rw [assigned.kept other absent,
      Field.get_put_of_ne fun same => different (congrArg some same)]

theorem tail (distinct : missing.Nodup)
    (assigned : Assigned missing settings ((some field, value) :: entries) result) :
    Assigned (missing.erase field) (field.put (field.get result) settings) entries result := by
  obtain ⟨fresh, once⟩ := List.nodup_cons.mp assigned.once
  refine ⟨?_, once, fun other given later => ?_, ?_⟩
  · intro entry later
    obtain ⟨other, left, named⟩ := assigned.known entry (List.mem_cons_of_mem _ later)
    refine ⟨other, distinct.mem_erase_iff.mpr ⟨?_, left⟩, named⟩
    rintro rfl
    exact fresh (List.mem_map.mpr ⟨entry, later, named⟩)
  · exact assigned.given other given (List.mem_cons_of_mem _ later)
  · intro other absent
    by_cases same : other = field
    · subst same
      rw [Field.get_put]
    · rw [Field.get_put_of_ne same]
      refine assigned.kept other fun among => ?_
      rcases List.mem_cons.mp among with head | later
      · exact same (Option.some.inj head)
      · exact absent later

end Assigned

/-- Giving values in turn comes to what the entries say as a whole. -/
theorem assign_eq_some_iff {missing : List Field} (distinct : missing.Nodup) {settings : Settings}
    {entries : List Entry} {result : Settings} :
    assign missing settings entries = some result ↔ Assigned missing settings entries result := by
  -- Each entry takes its field from the missing ones and changes the settings for those behind it.
  induction entries generalizing missing settings with
  | nil => rw [assign, Assigned.nil_iff, Option.some.injEq, eq_comm]
  | cons entry entries inductionHypothesis =>
    obtain ⟨field?, value⟩ := entry
    have rest (field : Field) (content : field.Content) :
        assign (missing.erase field) (field.put content settings) entries = some result ↔
          Assigned (missing.erase field) (field.put content settings) entries result :=
      inductionHypothesis (distinct.erase field)
    rw [assign]
    constructor
    · intro made
      obtain ⟨field, found, taken⟩ := Option.bind_eq_some_iff.mp made
      obtain ⟨content, fits, given⟩ := Option.bind_eq_some_iff.mp taken
      obtain ⟨rfl, missed⟩ := Option.filter_eq_some_iff.mp found
      exact .cons distinct (of_decide_eq_true missed) fits ((rest field content).mp given)
    · intro assigned
      obtain ⟨field, missed, rfl⟩ := assigned.known _ List.mem_cons_self
      rw [Option.filter_some, if_pos (decide_eq_true missed), Option.bind_some,
        assigned.given field value List.mem_cons_self, Option.bind_some]
      exact (rest field _).mpr (assigned.tail distinct)

/-- Values can be given if their fields are missing, all different, and take them. -/
theorem exists_assigned {missing : List Field} (settings : Settings) {entries : List Entry}
    (known : ∀ entry ∈ entries, ∃ field ∈ missing, entry.1 = some field)
    (once : (entries.map Prod.fst).Nodup)
    (fits : ∀ field value, (some field, value) ∈ entries → field.Fits value) :
    ∃ result, Assigned missing settings entries result := by
  -- What each field is to hold, whether it is given a value or not.
  have each (field : Field) : ∃ content : field.Content,
      (∀ value, (some field, value) ∈ entries → field.content? value = some content) ∧
        (some field ∉ entries.map Prod.fst → content = field.get settings) := by
    by_cases among : some field ∈ entries.map Prod.fst
    · obtain ⟨⟨named, value⟩, present, rfl⟩ := List.mem_map.mp among
      obtain ⟨content, taken⟩ := Field.fits_iff.mp (fits field value present)
      refine ⟨content, fun other also => ?_, fun absent => absurd among absent⟩
      cases List.inj_on_of_nodup_map once present also rfl
      exact taken
    · refine ⟨field.get settings, fun value present => ?_, fun _ => rfl⟩
      exact absurd (List.mem_map_of_mem present) among
  choose contents given kept using each
  refine ⟨Field.assemble contents, known, once,
    fun field value present => ?_, fun field absent => ?_⟩
  · rw [Field.get_assemble, given field value present]
  · rw [Field.get_assemble, kept field absent]

end PacketDivert.Settings
