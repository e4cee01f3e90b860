import PacketDivert.Proofs.Settings.JsonText

namespace PacketDivert.Settings

open Json (Digits Numeral)

/-- What does not continue a number. -/
def Ends (rest : List Char) : Prop :=
  ∀ letter ∈ rest.head?, letter.isDigit = false ∧ letter ≠ '.' ∧ letter ≠ 'e' ∧ letter ≠ 'E'

/-- A text that is not read as a natural number, be it that it is not read at all. -/
def NoNatural (scanned : Scanned Number) : Prop :=
  ∀ value rest, scanned ≠ .ok (.natural value, rest)

namespace NoNatural

theorem error (fault : DocumentFault) : NoNatural (.error fault) := fun _ _ read => nomatch read

theorem real (value : Float) (rest : List Char) : NoNatural (.ok (.real value, rest)) := by
  intro natural more read
  cases read

theorem negative (magnitude : Nat) (rest : List Char) :
    NoNatural (.ok (.negative magnitude, rest)) := by
  intro natural more read
  cases read

theorem bind {α : Type} (first : Except DocumentFault α) {next : α → Scanned Number}
    (each : ∀ value, NoNatural (next value)) : NoNatural (first.bind next) := by
  cases first with
  | error fault => exact error fault
  | ok value => exact each value

theorem scaled (negative : Bool) (number : Nat) (exponent : Int) (rest : List Char) :
    NoNatural (match scaled? number exponent with
      | none => .error .malformed
      | some value => .ok (.real (if negative then -value else value), rest)) := by
  cases scaled? number exponent with
  | none => exact error _
  | some value => exact real _ _

theorem ite {condition : Prop} [Decidable condition] {yes no : Scanned Number}
    (ifYes : condition → NoNatural yes) (ifNo : ¬condition → NoNatural no) :
    NoNatural (if condition then yes else no) := by
  split
  · exact ifYes ‹_›
  · exact ifNo ‹_›

end NoNatural

theorem noNatural_scanReal (negative : Bool) (number : Nat) (left text : List Char) :
    NoNatural (scanReal negative number left text) := by
  unfold scanReal
  dsimp only
  split
  · refine .bind _ fun fraction => .bind _ fun shifted => ?_
    split <;> exact .bind _ fun exponent => .scaled _ _ _ _
  · refine .bind _ fun shifted => ?_
    split <;> exact .bind _ fun exponent => .scaled _ _ _ _

theorem noNatural_scanNumber_negative (text : List Char) : NoNatural (scanNumber true text) := by
  unfold scanNumber
  simp only [Bool.not_true, Bool.false_eq_true, ↓reduceIte]
  split
  · exact .error _
  · exact .error _
  · exact .error _
  · refine .ite (fun _ => ?_) fun _ => noNatural_scanReal _ _ _ _
    exact .ite (fun _ => .negative _ _) fun _ => .real _ _

namespace Digit

theorem isDigit_letter (digit : Fin 10) : (Nat.digitChar digit.val).isDigit = true := by
  rw [Nat.isDigit_digitChar, decide_eq_true digit.isLt]

theorem value_letter (digit : Fin 10) :
    (Nat.digitChar digit.val).toNat - '0'.toNat = digit.val := by
  revert digit
  decide

theorem letter_eq_zero {digit : Fin 10} (zero : Nat.digitChar digit.val = '0') : digit = 0 := by
  revert digit
  decide

end Digit

/-- The number that some digits make of the one in front of them. -/
def extended (number : Nat) (digits : List (Fin 10)) : Nat :=
  digits.foldl (fun value digit => value * 10 + digit.val) number

theorem le_extended (number : Nat) (digits : List (Fin 10)) : number ≤ extended number digits := by
  induction digits generalizing number with
  | nil => exact Nat.le_refl number
  | cons digit digits inductionHypothesis =>
    calc number ≤ number * 10 + digit.val := by omega
      _ ≤ extended (number * 10 + digit.val) digits := inductionHypothesis _

theorem appendDigits_of_lt (number : Nat) (digits : List (Fin 10))
    (fits : extended number digits < UInt64.size) :
    appendDigits number (digits.map fun digit => Nat.digitChar digit.val) =
      (extended number digits, []) := by
  induction digits generalizing number with
  | nil => rfl
  | cons digit digits inductionHypothesis =>
    have early : number * 10 + digit.val < UInt64.size :=
      Nat.lt_of_le_of_lt (le_extended (number * 10 + digit.val) digits) fits
    rw [List.map_cons, appendDigits]
    simp only [Digit.value_letter, early, ↓reduceIte]
    exact inductionHypothesis _ fits

theorem appendDigits_of_le (number : Nat) (digits : List (Fin 10)) (least : number < UInt64.size)
    (exceeds : UInt64.size ≤ extended number digits) :
    (appendDigits number (digits.map fun digit => Nat.digitChar digit.val)).2 ≠ [] := by
  induction digits generalizing number with
  | nil => exact absurd exceeds (Nat.not_le.mpr least)
  | cons digit digits inductionHypothesis =>
    rw [List.map_cons, appendDigits]
    simp only [Digit.value_letter]
    split
    · rename_i early
      exact inductionHypothesis _ early exceeds
    · exact List.cons_ne_nil _ _

namespace Json.Digits

theorem text_eq (digits : Digits) :
    digits.text = digits.all.map fun digit => Nat.digitChar digit.val := rfl

theorem isDigit_of_mem (digits : Digits) : ∀ letter ∈ digits.text, letter.isDigit = true := by
  rw [text_eq, List.forall_mem_map]
  exact fun digit _ => Digit.isDigit_letter digit

theorem text_ne_nil (digits : Digits) : digits.text ≠ [] := List.cons_ne_nil _ _

theorem not_padded (digits : Digits) (unpadded : digits.first = 0 → digits.others = [])
    (next : Char) (more : List Char) : digits.text ≠ '0' :: next :: more := by
  intro padded
  obtain ⟨zero, others⟩ := List.cons.inj padded
  rw [unpadded (Digit.letter_eq_zero zero)] at others
  exact nomatch others

theorem takeWhile_text_append (digits : Digits) {rest : List Char}
    (next : ∀ letter ∈ rest.head?, letter.isDigit = false) :
    (digits.text ++ rest).takeWhile Char.isDigit = digits.text := by
  rw [List.takeWhile_append_of_pos digits.isDigit_of_mem]
  cases rest with
  | nil => rw [List.takeWhile_nil, List.append_nil]
  | cons letter rest =>
    rw [List.takeWhile_cons_of_neg (by simp [next letter rfl]), List.append_nil]

theorem dropWhile_text_append (digits : Digits) {rest : List Char}
    (next : ∀ letter ∈ rest.head?, letter.isDigit = false) :
    (digits.text ++ rest).dropWhile Char.isDigit = rest := by
  rw [List.dropWhile_append_of_pos digits.isDigit_of_mem]
  cases rest with
  | nil => rfl
  | cons letter rest => rw [List.dropWhile_cons_of_neg (by simp [next letter rfl])]

end Json.Digits

/-- Digits are read to their end, and a zero in front of others is not accepted. -/
theorem scanNumber_text (digits : Digits) (unpadded : digits.first = 0 → digits.others = [])
    {rest : List Char} (next : ∀ letter ∈ rest.head?, letter.isDigit = false) :
    scanNumber false (digits.text ++ rest) =
      let (number, left) := appendDigits 0 digits.text
      let whole := match rest with
        | '.' :: _ | 'e' :: _ | 'E' :: _ => false
        | _ => left.isEmpty
      if whole then .ok (.natural number, rest) else scanReal false number left rest := by
  unfold scanNumber
  rw [digits.takeWhile_text_append next, digits.dropWhile_text_append next]
  dsimp only
  split
  · exact absurd ‹digits.text = []› digits.text_ne_nil
  · exact absurd ‹digits.text = []› digits.text_ne_nil
  · exact absurd ‹digits.text = _ :: _ :: _› (digits.not_padded unpadded _ _)
  · rfl

/-- An unsigned integer that 64 bits hold is read as what it is. -/
theorem scanNumber_natural {digits : Digits} (unpadded : digits.first = 0 → digits.others = [])
    {rest : List Char} (ends : Ends rest) (fits : digits.value < UInt64.size) :
    scanNumber false (digits.text ++ rest) = .ok (.natural digits.value, rest) := by
  rw [scanNumber_text digits unpadded fun letter first => (ends letter first).1,
    Json.Digits.text_eq, appendDigits_of_lt 0 digits.all fits]
  dsimp only
  split
  · exact absurd rfl (ends '.' rfl).2.1
  · exact absurd rfl (ends 'e' rfl).2.2.1
  · exact absurd rfl (ends 'E' rfl).2.2.2
  · rfl

/-- A number is not read as a natural one if it goes on behind its whole part, or if 64 bits do not
hold it. -/
theorem noNatural_scanNumber {digits : Digits}
    (unpadded : digits.first = 0 → digits.others = []) {rest : List Char}
    (next : ∀ letter ∈ rest.head?, letter.isDigit = false)
    (other : (∃ letter more, rest = letter :: more ∧ letter ∈ ['.', 'e', 'E']) ∨
      UInt64.size ≤ digits.value) :
    NoNatural (scanNumber false (digits.text ++ rest)) := by
  rw [scanNumber_text digits unpadded next]
  refine .ite (fun whole => ?_) fun _ => noNatural_scanReal _ _ _ _
  exfalso
  rcases other with ⟨letter, more, rfl, mark⟩ | exceeds
  · simp only [List.mem_cons, List.not_mem_nil, or_false] at mark
    rcases mark with rfl | rfl | rfl <;> exact nomatch whole
  · have left := appendDigits_of_le 0 digits.all (by decide) exceeds
    split at whole
    · exact nomatch whole
    · exact nomatch whole
    · exact nomatch whole
    · exact left (List.isEmpty_iff.mp whole)

end PacketDivert.Settings
