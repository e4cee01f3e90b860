import PacketDivert.Proofs.Settings.Literals
import PacketDivert.Proofs.Settings.Numerals

namespace PacketDivert.Settings

open Json (Digits Gap Numeral Piece meaning?)

theorem isSpace_letter (blank : Json.Blank) : isSpace blank.letter = true := by
  cases blank <;> decide

theorem skipSpace_gap (gap : Gap) (rest : List Char) :
    skipSpace (gap.text ++ rest) = skipSpace rest := by
  have spaces : ∀ letter ∈ gap.text, isSpace letter = true := by
    rw [Gap.text, List.forall_mem_map]
    exact fun blank _ => isSpace_letter blank
  exact List.dropWhile_append_of_pos spaces

theorem skipSpace_of_not_space {letter : Char} (visible : isSpace letter = false)
    (rest : List Char) : skipSpace (letter :: rest) = letter :: rest :=
  List.dropWhile_cons_of_neg (by rw [visible]; exact Bool.false_ne_true)

theorem scanWord_append (word rest : List Char) : scanWord word (word ++ rest) = .ok rest := by
  induction word with
  | nil => rfl
  | cons letter word inductionHypothesis =>
    rw [List.cons_append, scanWord, if_pos rfl, inductionHypothesis]

namespace Json

/-- The value of an unsigned integer below a bound. -/
def below? (bound : Nat) : Json → Option Nat
  | .number numeral => numeral.natural?.filter (· < bound)
  | _ => none

/-- The same where `null` stands for no number. -/
def optionalBelow? (bound : Nat) : Json → Option (Option Nat)
  | .null => some none
  | value => (value.below? bound).map some

def boolean? : Json → Option Bool
  | .boolean value => some value
  | _ => none

def string? : Json → Option (List Char)
  | .string pieces => meaning? pieces
  | _ => none

theorem Digits.isDigit_first (digits : Digits) :
    (Nat.digitChar digits.first.val).isDigit = true := Digit.isDigit_letter digits.first

theorem Digits.text_eq_cons (digits : Digits) :
    digits.text = Nat.digitChar digits.first.val ::
      digits.others.map fun digit => Nat.digitChar digit.val := rfl

theorem Numeral.text_of_negative {numeral : Numeral} (negative : numeral.negative = true) :
    numeral.text = '-' :: (numeral.whole.text ++ numeral.tail) := by
  rw [Numeral.text, negative]
  rfl

theorem Numeral.text_of_unsigned {numeral : Numeral} (unsigned : numeral.negative = false) :
    numeral.text = numeral.whole.text ++ numeral.tail := by
  rw [Numeral.text, unsigned]
  rfl

/-- A number begins with a sign or a digit. -/
def LeadsNumber (letter : Char) : Prop := letter = '-' ∨ letter.isDigit = true

instance (letter : Char) : Decidable (LeadsNumber letter) := inferInstanceAs (Decidable (_ ∨ _))

theorem LeadsNumber.ne {letter other : Char} (leads : LeadsNumber letter)
    (plain : ¬LeadsNumber other) : letter ≠ other := by
  rintro rfl
  exact plain leads

theorem Numeral.text_eq_cons (numeral : Numeral) :
    ∃ letter more, numeral.text = letter :: more ∧ LeadsNumber letter := by
  cases negative : numeral.negative with
  | true => exact ⟨'-', _, text_of_negative negative, .inl rfl⟩
  | false =>
    have begins := text_of_unsigned negative
    rw [numeral.whole.text_eq_cons, List.cons_append] at begins
    exact ⟨_, _, begins, .inr numeral.whole.isDigit_first⟩

/-- What a value begins with. -/
theorem text_eq_cons (value : Json) :
    ∃ letter more, value.text = letter :: more ∧
      (LeadsNumber letter ∨ letter ∈ ['n', 't', 'f', '"', '[', '\x7b']) := by
  cases value with
  | null => exact ⟨'n', _, by rw [text]; rfl, by decide⟩
  | boolean value => cases value <;> exact ⟨_, _, by rw [text]; rfl, by decide⟩
  | number numeral =>
    obtain ⟨letter, more, begins, leads⟩ := numeral.text_eq_cons
    exact ⟨letter, more, by rw [text, begins], .inl leads⟩
  | string pieces => exact ⟨'"', _, by rw [text]; rfl, by decide⟩
  | array gap elements => exact ⟨'[', _, by rw [text]; rfl, by decide⟩
  | object gap members => exact ⟨'\x7b', _, by rw [text]; rfl, by decide⟩

end Json

theorem isSpace_of_leads {letter : Char} (leads : Json.LeadsNumber letter) :
    isSpace letter = false := by
  simp only [isSpace, Bool.or_eq_false_iff, beq_eq_false_iff_ne]
  exact ⟨⟨⟨leads.ne (by decide), leads.ne (by decide)⟩, leads.ne (by decide)⟩,
    leads.ne (by decide)⟩

/-- No value begins with space, or with what ends an array. -/
theorem Json.text_opens (value : Json) :
    ∃ letter more, value.text = letter :: more ∧ isSpace letter = false ∧ letter ≠ ']' := by
  obtain ⟨letter, more, begins, kind⟩ := value.text_eq_cons
  refine ⟨letter, more, begins, ?_⟩
  rcases kind with leads | mark
  · exact ⟨isSpace_of_leads leads, leads.ne (by decide)⟩
  · simp only [List.mem_cons, List.not_mem_nil, or_false] at mark
    rcases mark with rfl | rfl | rfl | rfl | rfl | rfl <;> decide

theorem skipSpace_text (value : Json) (rest : List Char) :
    skipSpace (value.text ++ rest) = value.text ++ rest := by
  obtain ⟨letter, more, begins, visible, -⟩ := value.text_opens
  rw [begins, List.cons_append, skipSpace_of_not_space visible]

theorem Ends.isDigit {rest : List Char} (ends : Ends rest) :
    ∀ letter ∈ rest.head?, letter.isDigit = false :=
  fun letter first => (ends letter first).1

/-- What a scanned number is taken for where a natural number is wanted. -/
def taken (expected : String) (bound : Nat) (scanned : Scanned Number) : Scanned Nat :=
  match scanned with
  | .error fault => .error fault
  | .ok (number, rest) => (natural expected bound number).map (·, rest)

theorem NoNatural.taken {scanned : Scanned Number} (other : NoNatural scanned) (expected : String)
    (bound : Nat) : (taken expected bound scanned).toOption = none := by
  match scanned, other with
  | .error fault, _ => rfl
  | .ok (.natural value, rest), other => exact absurd rfl (other value rest)
  | .ok (.negative magnitude, rest), _ => rfl
  | .ok (.real value, rest), _ => rfl

theorem taken_natural (expected : String) (bound value : Nat) (rest : List Char) :
    (taken expected bound (.ok (.natural value, rest))).toOption =
      if value < bound then some (value, rest) else none := by
  simp only [taken, natural]
  split <;> rfl

theorem scanNatural_minus (expected : String) (bound : Nat) (rest : List Char) :
    scanNatural expected bound ('-' :: rest) = taken expected bound (scanNumber true rest) := by
  simp only [scanNatural, taken]
  rcases scanNumber true rest with fault | ⟨number, after⟩ <;> rfl

theorem scanNatural_digit (expected : String) (bound : Nat) {letter : Char}
    (digit : letter.isDigit = true) (rest : List Char) :
    scanNatural expected bound (letter :: rest) =
      taken expected bound (scanNumber false (letter :: rest)) := by
  unfold scanNatural taken
  split
  · rename_i minus
    cases minus
    exact absurd digit (by decide)
  · rename_i same
    cases same
    rw [if_pos digit]
    dsimp only
    rcases scanNumber false (letter :: rest) with fault | ⟨number, after⟩ <;> rfl
  · rename_i none
    exact nomatch none

theorem scanNatural_other (expected : String) (bound : Nat) {letter : Char} (minus : letter ≠ '-')
    (digit : letter.isDigit = false) (rest : List Char) :
    (scanNatural expected bound (letter :: rest)).toOption = none := by
  unfold scanNatural
  split
  · rename_i same
    exact absurd (List.cons.inj same).1 minus
  · rename_i same
    cases same
    rw [digit]
    rfl
  · rfl

theorem Json.Numeral.next_tail (numeral : Numeral) {rest : List Char} (ends : Ends rest) :
    ∀ letter ∈ (numeral.tail ++ rest).head?, letter.isDigit = false := by
  unfold Numeral.tail
  cases numeral.fraction with
  | some digits =>
    intro letter first
    cases first
    rfl
  | none =>
    cases numeral.exponent with
    | none => exact ends.isDigit
    | some exponent =>
      intro letter first
      cases first
      cases exponent.capital <;> rfl

/-- An unsigned number that is no integer goes on behind its whole part. -/
theorem Json.Numeral.exists_tail {numeral : Numeral} (unsigned : numeral.negative = false)
    (other : numeral.natural? = none) (rest : List Char) :
    ∃ letter more, numeral.tail ++ rest = letter :: more ∧ letter ∈ ['.', 'e', 'E'] := by
  unfold Numeral.tail
  cases fraction : numeral.fraction with
  | some digits => exact ⟨'.', _, rfl, by decide⟩
  | none =>
    cases scaled : numeral.exponent with
    | none => simp [Numeral.natural?, unsigned, fraction, scaled] at other
    | some exponent => exact ⟨_, _, rfl, by cases exponent.capital <;> decide⟩

theorem Json.Numeral.natural?_eq_some {numeral : Numeral} {value : Nat}
    (natural : numeral.natural? = some value) :
    numeral.negative = false ∧ numeral.tail = [] ∧ numeral.whole.value = value := by
  unfold Numeral.natural? at natural
  split at natural
  · rename_i unsigned fraction exponent
    refine ⟨unsigned, ?_, Option.some.inj natural⟩
    rw [Numeral.tail, fraction, exponent]
    rfl
  · exact nomatch natural

/-- An unsigned integer below the bound is taken for what it is, and no other number is taken. -/
theorem scanNatural_number (expected : String) {bound : Nat} (within : bound ≤ UInt64.size)
    (numeral : Numeral) {rest : List Char} (ends : Ends rest) :
    (scanNatural expected bound (numeral.text ++ rest)).toOption =
      (numeral.natural?.filter (· < bound)).map (·, rest) := by
  cases negative : numeral.negative with
  | true =>
    have none : numeral.natural? = none := by simp [Numeral.natural?, negative]
    rw [Numeral.text_of_negative negative, List.cons_append, scanNatural_minus,
      (noNatural_scanNumber_negative _).taken, none]
    rfl
  | false =>
    have scanned : scanNatural expected bound (numeral.text ++ rest) =
        taken expected bound (scanNumber false (numeral.whole.text ++ (numeral.tail ++ rest))) := by
      rw [Numeral.text_of_unsigned negative, List.append_assoc, numeral.whole.text_eq_cons,
        List.cons_append]
      exact scanNatural_digit expected bound numeral.whole.isDigit_first _
    rw [scanned]
    have next := numeral.next_tail ends
    cases natural : numeral.natural? with
    | none =>
      rw [(noNatural_scanNumber numeral.unpadded next
        (.inl (numeral.exists_tail negative natural rest))).taken]
      rfl
    | some value =>
      obtain ⟨-, whole, rfl⟩ := Numeral.natural?_eq_some natural
      by_cases fits : numeral.whole.value < UInt64.size
      · rw [whole, List.nil_append, scanNumber_natural numeral.unpadded ends fits, taken_natural,
          Option.filter_some]
        by_cases below : numeral.whole.value < bound <;> simp [below]
      · have exceeds := Nat.le_of_not_lt fits
        have above : ¬numeral.whole.value < bound := by omega
        rw [(noNatural_scanNumber numeral.unpadded next (.inr exceeds)).taken, Option.filter_some]
        simp [above]

/-- Values are taken for natural numbers if they are unsigned integers below the bound. -/
theorem scanNatural_text (expected : String) {bound : Nat} (within : bound ≤ UInt64.size)
    (value : Json) {rest : List Char} (ends : Ends rest) :
    (scanNatural expected bound (value.text ++ rest)).toOption =
      (value.below? bound).map (·, rest) := by
  cases value with
  | number numeral =>
    rw [Json.text]
    exact scanNatural_number expected within numeral ends
  | boolean value =>
    cases value <;> rw [Json.text] <;> exact scanNatural_other expected bound (by decide) rfl _
  | null | string | array | object =>
    rw [Json.text]
    exact scanNatural_other expected bound (by decide) rfl _

theorem scanOptional_of_ne (expected : String) (bound : Nat) {letter : Char} (other : letter ≠ 'n')
    (rest : List Char) :
    (scanOptional expected bound (letter :: rest)).toOption =
      (scanNatural expected bound (letter :: rest)).toOption.map fun (value, rest) =>
        (some value, rest) := by
  unfold scanOptional
  split
  · rename_i same
    exact absurd (List.cons.inj same).1 other
  · rcases scanNatural expected bound (letter :: rest) with fault | found <;> rfl

/-- The same where `null` stands for no number. -/
theorem scanOptional_text (expected : String) {bound : Nat} (within : bound ≤ UInt64.size)
    (value : Json) {rest : List Char} (ends : Ends rest) :
    (scanOptional expected bound (value.text ++ rest)).toOption =
      (value.optionalBelow? bound).map (·, rest) := by
  have scanned := scanNatural_text expected within value ends
  have present (letter : Char) (more : List Char) (begins : value.text = letter :: more)
      (other : letter ≠ 'n')
      (optional : value.optionalBelow? bound = (value.below? bound).map some) :
      (scanOptional expected bound (value.text ++ rest)).toOption =
        (value.optionalBelow? bound).map (·, rest) := by
    rw [begins, List.cons_append] at scanned ⊢
    rw [scanOptional_of_ne _ _ other, scanned, optional]
    cases value.below? bound <;> rfl
  cases value with
  | null =>
    rw [Json.text]
    change ((scanWord "ull".toList ("ull".toList ++ rest)).map
      ((none : Option Nat), ·)).toOption = _
    rw [scanWord_append]
    rfl
  | boolean value =>
    cases value <;> exact present _ _ (by rw [Json.text]; rfl) (by decide) rfl
  | number numeral =>
    obtain ⟨letter, more, begins, leads⟩ := numeral.text_eq_cons
    exact present letter more (by rw [Json.text, begins]) (leads.ne (by decide)) rfl
  | string pieces => exact present '"' _ (by rw [Json.text]; rfl) (by decide) rfl
  | array gap elements => exact present '[' _ (by rw [Json.text]; rfl) (by decide) rfl
  | object gap members => exact present '\x7b' _ (by rw [Json.text]; rfl) (by decide) rfl

theorem scanBoolean_of_ne {letter : Char} (notTrue : letter ≠ 't') (notFalse : letter ≠ 'f')
    (rest : List Char) : (scanBoolean (letter :: rest)).toOption = none := by
  unfold scanBoolean
  split
  · rename_i same
    exact absurd (List.cons.inj same).1 notTrue
  · rename_i same
    exact absurd (List.cons.inj same).1 notFalse
  · rfl

theorem scanBoolean_text (value : Json) (rest : List Char) :
    (scanBoolean (value.text ++ rest)).toOption = value.boolean?.map (·, rest) := by
  cases value with
  | boolean value =>
    cases value with
    | true =>
      rw [Json.text]
      change ((scanWord "rue".toList ("rue".toList ++ rest)).map (true, ·)).toOption = _
      rw [scanWord_append]
      rfl
    | false =>
      rw [Json.text]
      change ((scanWord "alse".toList ("alse".toList ++ rest)).map (false, ·)).toOption = _
      rw [scanWord_append]
      rfl
  | number numeral =>
    obtain ⟨letter, more, begins, leads⟩ := numeral.text_eq_cons
    rw [Json.text, begins]
    exact scanBoolean_of_ne (leads.ne (by decide)) (leads.ne (by decide)) _
  | null | string | array | object =>
    rw [Json.text]
    exact scanBoolean_of_ne (by decide) (by decide) _

theorem scanText_of_ne {letter : Char} (other : letter ≠ '"') (rest : List Char) :
    (scanText (letter :: rest)).toOption = none := by
  unfold scanText
  split
  · rename_i same
    exact absurd (List.cons.inj same).1 other
  · rfl

theorem literal_append (pieces : List Piece) (rest : List Char) :
    Json.literal pieces ++ rest = '"' :: (pieces.flatMap Piece.text ++ '"' :: rest) := by
  simp [Json.literal]

theorem scanText_text (value : Json) (rest : List Char) :
    (scanText (value.text ++ rest)).toOption = value.string?.map (·, rest) := by
  cases value with
  | string pieces =>
    rw [Json.text, literal_append]
    exact scanString_text pieces rest
  | number numeral =>
    obtain ⟨letter, more, begins, leads⟩ := numeral.text_eq_cons
    rw [Json.text, begins]
    exact scanText_of_ne (leads.ne (by decide)) _
  | boolean value => cases value <;> rw [Json.text] <;> exact scanText_of_ne (by decide) _
  | null | array | object =>
    rw [Json.text]
    exact scanText_of_ne (by decide) _

end PacketDivert.Settings
