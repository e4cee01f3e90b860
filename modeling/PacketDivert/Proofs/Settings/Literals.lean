import PacketDivert.Proofs.Settings.JsonText

namespace PacketDivert.Settings

open Json (CodeUnit Escape HexDigit Piece meaning?)

theorem hexDigit?_letter (digit : HexDigit) : hexDigit? digit.letter = some digit.value.val := by
  obtain ⟨value, capital⟩ := digit
  revert value
  cases capital <;> decide

theorem scanUnit_text (unit : CodeUnit) (rest : List Char) :
    scanUnit (unit.text ++ rest) = .ok (unit.value, rest) := by
  have value :
      ((unit.first.value.val * 16 + unit.second.value.val) * 16 + unit.third.value.val) * 16 +
      unit.fourth.value.val = unit.value := by
    unfold CodeUnit.value
    omega
  simp only [CodeUnit.text, List.cons_append, List.nil_append, scanUnit, hexDigit?_letter, value]

theorem isHighSurrogate_iff (unit : CodeUnit) :
    isHighSurrogate unit.value = true ↔ unit.IsHigh := by
  simp only [isHighSurrogate, Bool.and_eq_true, decide_eq_true_eq, CodeUnit.IsHigh]
  omega

theorem isLowSurrogate_iff (unit : CodeUnit) :
    isLowSurrogate unit.value = true ↔ unit.IsLow := by
  simp only [isLowSurrogate, Bool.and_eq_true, decide_eq_true_eq, CodeUnit.IsLow]
  omega

section Numbered

variable {unit : CodeUnit} (rest : List Char)

theorem scanNumbered_of_low (low : unit.IsLow) :
    (scanNumbered (unit.text ++ rest)).toOption = none := by
  simp only [scanNumbered, scanUnit_text, (isLowSurrogate_iff unit).mpr low, ↓reduceIte,
    Except.toOption]

theorem scanNumbered_of_single (notLow : ¬unit.IsLow) (notHigh : ¬unit.IsHigh) :
    (scanNumbered (unit.text ++ rest)).toOption = some (Char.ofNat unit.value, rest) := by
  simp only [scanNumbered, scanUnit_text, isLowSurrogate_iff, isHighSurrogate_iff, notLow, notHigh,
    ↓reduceIte, Except.toOption]

/-- The first half of a pair is followed by another unit, which must be the second half. -/
theorem scanNumbered_of_high (notLow : ¬unit.IsLow) (high : unit.IsHigh) (second : CodeUnit) :
    (scanNumbered (unit.text ++ ('\\' :: 'u' :: (second.text ++ rest)))).toOption =
      if second.IsLow then some (CodeUnit.paired unit second, rest) else none := by
  simp only [scanNumbered, scanUnit_text, isLowSurrogate_iff, isHighSurrogate_iff, notLow, high,
    ↓reduceIte]
  by_cases low : second.IsLow
  · simp only [low, ↓reduceIte]
    rfl
  · simp only [low, ↓reduceIte]
    rfl

theorem scanNumbered_of_lone (notLow : ¬unit.IsLow) (high : unit.IsHigh)
    (lone : ∀ more, rest ≠ '\\' :: 'u' :: more) :
    (scanNumbered (unit.text ++ rest)).toOption = none := by
  simp only [scanNumbered, scanUnit_text, isLowSurrogate_iff, isHighSurrogate_iff, notLow, high,
    ↓reduceIte]
  split
  · exact absurd rfl (lone _)
  · rfl
  · rfl
  · rfl

end Numbered

section Pieces

variable (taken rest : List Char)

theorem scanStringAfter_end :
    scanStringAfter taken ('"' :: rest) = .ok (taken.reverse, rest) := by
  rw [scanStringAfter]

theorem scanStringAfter_plain {letter : Char}
    (bare : letter ≠ '"' ∧ letter ≠ '\\' ∧ 0x20 ≤ letter.toNat) :
    scanStringAfter taken (letter :: rest) = scanStringAfter (letter :: taken) rest := by
  obtain ⟨notQuote, notBackslash, visible⟩ := bare
  rw [scanStringAfter]
  · rw [if_neg (Nat.not_lt.mpr visible)]
  all_goals simp [notQuote, notBackslash]

theorem scanStringAfter_escaped (escape : Escape) :
    scanStringAfter taken ('\\' :: escape.letter :: rest) =
      scanStringAfter (escape.meaning :: taken) rest := by
  cases escape <;> simp [scanStringAfter, Escape.letter, Escape.meaning, escaped?]

theorem scanStringAfter_numbered :
    (scanStringAfter taken ('\\' :: 'u' :: rest)).toOption =
      (scanNumbered rest).toOption.bind fun (letter, after) =>
        (scanStringAfter (letter :: taken) after).toOption := by
  rw [scanStringAfter]
  split <;> rename_i scanned <;> rw [scanned] <;> rfl

end Pieces

/-- A literal that does not begin with a number has no second half of a pair to offer. -/
theorem not_numbered_of_pieces {pieces : List Piece}
    (other : ∀ unit more, pieces ≠ .numbered unit :: more) (rest more : List Char) :
    pieces.flatMap Piece.text ++ '"' :: rest ≠ '\\' :: 'u' :: more := by
  match pieces, other with
  | [], _ => simp
  | .plain letter bare :: pieces, _ => simp [Piece.text, bare.2.1]
  | .escaped escape :: pieces, _ => cases escape <;> simp [Piece.text, Escape.letter]
  | .numbered unit :: pieces, other => exact absurd rfl (other unit pieces)

theorem map_taken (letter : Char) (taken rest : List Char) (letters? : Option (List Char)) :
    letters?.map (fun letters => ((letter :: taken).reverse ++ letters, rest)) =
      (letters?.map (letter :: ·)).map fun letters => (taken.reverse ++ letters, rest) := by
  cases letters? <;> simp

theorem flatMap_numbered (unit : CodeUnit) (pieces : List Piece) (rest : List Char) :
    (Piece.numbered unit :: pieces).flatMap Piece.text ++ rest =
      '\\' :: 'u' :: (unit.text ++ (pieces.flatMap Piece.text ++ rest)) := by
  simp [Piece.text]

/-- The rest of a literal is read as the characters that it stands for, or not at all. -/
theorem scanStringAfter_text (pieces : List Piece) (taken rest : List Char) :
    (scanStringAfter taken (pieces.flatMap Piece.text ++ '"' :: rest)).toOption =
      (meaning? pieces).map fun letters => (taken.reverse ++ letters, rest) := by
  fun_induction meaning? pieces generalizing taken with
  | case1 => simp [scanStringAfter_end, Except.toOption]
  | case2 letter bare pieces inductionHypothesis =>
    rw [List.flatMap_cons, Piece.text, List.singleton_append, List.cons_append,
      scanStringAfter_plain _ _ bare, inductionHypothesis, map_taken]
  | case3 escape pieces inductionHypothesis =>
    rw [List.flatMap_cons, Piece.text, List.cons_append, List.singleton_append, List.cons_append,
      List.cons_append, scanStringAfter_escaped, inductionHypothesis, map_taken]
  | case4 unit pieces low =>
    rw [flatMap_numbered, scanStringAfter_numbered, scanNumbered_of_low _ low]
    rfl
  | case5 unit notLow high low pieces isLow inductionHypothesis =>
    rw [flatMap_numbered, flatMap_numbered, scanStringAfter_numbered,
      scanNumbered_of_high _ notLow high, if_pos isLow, Option.bind_some]
    exact (inductionHypothesis _).trans (map_taken ..)
  | case6 unit notLow high other pieces notSecond =>
    rw [flatMap_numbered, flatMap_numbered, scanStringAfter_numbered,
      scanNumbered_of_high _ notLow high, if_neg notSecond]
    rfl
  | case7 unit pieces notLow high other =>
    rw [flatMap_numbered, scanStringAfter_numbered,
      scanNumbered_of_lone _ notLow high (not_numbered_of_pieces other rest)]
    rfl
  | case8 unit pieces notLow notHigh inductionHypothesis =>
    rw [flatMap_numbered, scanStringAfter_numbered, scanNumbered_of_single _ notLow notHigh,
      Option.bind_some]
    exact (inductionHypothesis _).trans (map_taken ..)

theorem scanString_text (pieces : List Piece) (rest : List Char) :
    (scanString (pieces.flatMap Piece.text ++ '"' :: rest)).toOption =
      (meaning? pieces).map (·, rest) := by
  rw [scanString, scanStringAfter_text]
  rfl

end PacketDivert.Settings
