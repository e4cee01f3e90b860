import PacketDivert.Text.Parts

namespace PacketDivert.Text

/-- The number that a text of decimal digits stands for. -/
def decimal? (text : String) : Option Nat :=
  if text ≠ "" ∧ text.toList.all Char.isDigit = true then
    some (Nat.ofDigitChars 10 text.toList 0)
  else none

theorem isDigit_of_mem_repr {number : Nat} {letter : Char}
    (member : letter ∈ number.repr.toList) : letter.isDigit = true := by
  rw [Nat.toList_repr] at member
  exact Nat.isDigit_of_mem_toDigits (by decide) (by decide) member

theorem not_mem_repr {letter : Char} (other : letter.isDigit = false) (number : Nat) :
    letter ∉ number.repr.toList := by
  intro member
  rw [isDigit_of_mem_repr member] at other
  cases other

@[simp] theorem decimal?_repr (number : Nat) : decimal? number.repr = some number := by
  have digits : number.repr.toList.all Char.isDigit = true :=
    List.all_eq_true.mpr fun _ member => isDigit_of_mem_repr member
  have nonempty : number.repr ≠ "" := Nat.repr_ne_empty
  simp only [decimal?, nonempty, digits, ne_eq, not_false_eq_true, and_self, ↓reduceIte]
  rw [Nat.toList_repr, Nat.ofDigitChars_ten_toDigits]

/-- A numeral tells its number. -/
theorem repr_inj {number other : Nat} : number.repr = other.repr ↔ number = other := by
  refine ⟨fun same => ?_, congrArg Nat.repr⟩
  refine Option.some.inj ?_
  rw [← decimal?_repr number, same, decimal?_repr]

theorem pieces_of_not_mem {separator : Char} {text : List Char} (free : separator ∉ text) :
    pieces separator text = [text] := by
  induction text with
  | nil => rfl
  | cons letter text inductionHypothesis =>
    obtain ⟨different, freeRest⟩ : separator ≠ letter ∧ separator ∉ text := by simpa using free
    simp [pieces, Ne.symm different, inductionHypothesis freeRest]

theorem split_of_not_mem {separator : Char} {text : String} (free : separator ∉ text.toList) :
    split separator text = [text] := by
  simp [split, pieces_of_not_mem free]

theorem split_append (separator : Char) (text more : String) :
    split separator (text ++ String.singleton separator ++ more) =
      split separator text ++ split separator more := by
  simp only [split, String.toList_append, String.toList_singleton, List.append_assoc,
    List.singleton_append, pieces_append, List.map_append]

/-- Texts joined by a separator come apart into the pieces of each. -/
theorem split_intercalate (separator : Char) {texts : List String} (nonempty : texts ≠ []) :
    split separator ((String.singleton separator).intercalate texts) =
      texts.flatMap (split separator) := by
  induction texts with
  | nil => exact absurd rfl nonempty
  | cons text texts inductionHypothesis =>
    by_cases last : texts = []
    · simp [last, String.intercalate_singleton]
    · rw [String.intercalate_cons_of_ne_nil last, split_append, inductionHypothesis last,
        List.flatMap_cons]

end PacketDivert.Text
