import Mathlib.Tactic.SplitIfs
import PacketDivert.Proofs.Settings.JsonText

namespace PacketDivert.Settings.Json

/-- The decimal digits of a number. -/
def Digits.ofNat (number : Nat) : Digits :=
  if small : number < 10 then ⟨⟨number, small⟩, []⟩
  else
    let high := Digits.ofNat (number / 10)
    ⟨high.first, high.others ++ [⟨number % 10, Nat.mod_lt _ (by decide)⟩]⟩

namespace Digits

theorem text_ofNat (number : Nat) : (ofNat number).text = Nat.toDigits 10 number := by
  fun_induction ofNat number with
  | case1 number small => exact (Nat.toDigits_of_lt_base small).symm
  | case2 number large high inductionHypothesis =>
    rw [Nat.toDigits_of_base_le (by decide) (by omega), ← inductionHypothesis]
    simp [text, all, high]

theorem value_ofNat (number : Nat) : (ofNat number).value = number := by
  fun_induction ofNat number with
  | case1 number small => simp [value, all]
  | case2 number large high inductionHypothesis =>
    have shifted : value ⟨high.first, high.others ++ [⟨number % 10, Nat.mod_lt _ (by decide)⟩]⟩ =
        high.value * 10 + number % 10 := by
      simp [value, all, List.foldl_append]
    rw [shifted, inductionHypothesis]
    omega

theorem first_ofNat {number : Nat} (positive : 0 < number) : (ofNat number).first ≠ 0 := by
  fun_induction ofNat number with
  | case1 number small => exact fun zero => absurd (congrArg Fin.val zero) (Nat.ne_of_gt positive)
  | case2 number large high inductionHypothesis => exact inductionHypothesis (by omega)

theorem unpadded_ofNat (number : Nat) :
    (ofNat number).first = 0 → (ofNat number).others = [] := by
  intro zero
  by_cases positive : 0 < number
  · exact absurd zero (first_ofNat positive)
  · obtain rfl := Nat.eq_zero_of_not_pos positive
    rw [ofNat]
    rfl

end Digits

/-- A number without a sign, a fraction or an exponent. -/
def Numeral.ofNat (number : Nat) : Numeral where
  negative := false
  whole := Digits.ofNat number
  fraction := none
  exponent := none
  unpadded := Digits.unpadded_ofNat number

namespace Numeral

theorem text_ofNat (number : Nat) : (ofNat number).text = Nat.toDigits 10 number := by
  have whole : (ofNat number).text = (Digits.ofNat number).text ++ [] := rfl
  rw [whole, List.append_nil, Digits.text_ofNat]

theorem natural?_ofNat (number : Nat) : (ofNat number).natural? = some number :=
  congrArg some (Digits.value_ofNat number)

end Numeral

/-- A character below 0x20, by number. -/
def CodeUnit.ofControl (letter : Char) (control : letter.toNat < 0x20) : CodeUnit where
  first := ⟨0, false⟩
  second := ⟨0, false⟩
  third := ⟨⟨letter.toNat / 0x10, by omega⟩, false⟩
  fourth := ⟨⟨letter.toNat % 0x10, by omega⟩, false⟩

theorem CodeUnit.value_ofControl (letter : Char) (control : letter.toNat < 0x20) :
    (ofControl letter control).value = letter.toNat := by
  simp [value, ofControl]
  omega

namespace Piece

/-- How a character is written. -/
def ofLetter (letter : Char) : Piece :=
  if quote : letter = '"' then .escaped .quote
  else if backslash : letter = '\\' then .escaped .backslash
  else if letter = '\n' then .escaped .lineFeed
  else if letter = '\r' then .escaped .carriageReturn
  else if letter = '\t' then .escaped .tab
  else if letter = Char.ofNat 8 then .escaped .backspace
  else if letter = Char.ofNat 12 then .escaped .formFeed
  else if control : letter.toNat < 0x20 then .numbered (.ofControl letter control)
  else .plain letter ⟨quote, backslash, Nat.le_of_not_lt control⟩

theorem text_ofLetter (letter : Char) : (ofLetter letter).text = writeLetter letter := by
  unfold ofLetter writeLetter
  simp only [beq_iff_eq]
  split_ifs <;> rfl

theorem meaning?_ofLetter (letter : Char) (pieces : List Piece) :
    meaning? (ofLetter letter :: pieces) = (meaning? pieces).map (letter :: ·) := by
  unfold ofLetter
  split_ifs with quote backslash lineFeed carriageReturn tab backspace formFeed control
  · subst quote; rfl
  · subst backslash; rfl
  · subst lineFeed; rfl
  · subst carriageReturn; rfl
  · subst tab; rfl
  · subst backspace; rfl
  · subst formFeed; rfl
  · have value := CodeUnit.value_ofControl letter control
    have notLow : ¬(CodeUnit.ofControl letter control).IsLow := by
      unfold CodeUnit.IsLow
      omega
    have notHigh : ¬(CodeUnit.ofControl letter control).IsHigh := by
      unfold CodeUnit.IsHigh
      omega
    rw [meaning?.eq_def]
    dsimp only
    rw [if_neg notLow, if_neg notHigh, value, Char.ofNat_toNat]
  · rfl

end Piece

/-- How a string is written. -/
def spelled (letters : List Char) : List Piece := letters.map Piece.ofLetter

theorem literal_spelled (letters : List Char) :
    literal (spelled letters) = writeString letters := by
  simp [literal, spelled, writeString, List.flatMap_map, Piece.text_ofLetter]

theorem meaning?_spelled (letters : List Char) : meaning? (spelled letters) = some letters := by
  induction letters with
  | nil => rfl
  | cons letter letters inductionHypothesis =>
    change meaning? (Piece.ofLetter letter :: spelled letters) = _
    rw [Piece.meaning?_ofLetter, inductionHypothesis]
    rfl

/-- A value of a field, written without space. -/
def Member.ofField (field : Field) (value : Json) : Member :=
  .mk [] (spelled field.name.toList) [] [] value []

end PacketDivert.Settings.Json
