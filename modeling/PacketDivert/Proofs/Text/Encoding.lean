import PacketDivert.Text.Utf8

/-! Characters as UTF-8 bytes, and how they are read again: a first byte says how many bytes follow
it, and each of these has six bits of the code point. -/

namespace PacketDivert.Text.Utf8

def encode (text : List Char) : Bytes := text.flatMap String.utf8EncodeChar

section Start

variable {byte : UInt8} {lead : Nat}

theorem start_single (small : byte.toNat < 0x80) :
    start byte = .inl (some (Char.ofNat byte.toNat)) := by
  rw [start, if_pos (UInt8.lt_iff_toNat_lt.mpr small)]

theorem start_double (size : byte.toNat = 0xC0 + lead) (least : 2 ≤ lead) (most : lead < 0x20) :
    start byte = .inr ⟨1, 0x80, 0xBF, lead⟩ := by
  simp only [start, UInt8.lt_iff_toNat_lt, UInt8.reduceToNat, size]
  rw [if_neg (by omega), if_neg (by omega), if_pos (by omega), Nat.add_sub_cancel_left]

/-- The byte after the first one of three is bounded where code points could be shorter, or could
be surrogates. -/
theorem start_triple (size : byte.toNat = 0xE0 + lead) (most : lead < 0x10) :
    start byte =
      .inr ⟨2, if lead = 0 then 0xA0 else 0x80, if lead = 0xD then 0x9F else 0xBF, lead⟩ := by
  simp only [start, UInt8.lt_iff_toNat_lt, ← UInt8.toNat_inj, UInt8.reduceToNat, size]
  rw [if_neg (by omega), if_neg (by omega), if_neg (by omega)]
  by_cases zero : lead = 0
  · simp [zero]
  · by_cases surrogate : lead = 0xD
    · simp [surrogate]
    · rw [if_neg (by omega), if_neg (by omega), if_pos (by omega), if_neg zero, if_neg surrogate,
        Nat.add_sub_cancel_left]

/-- The byte after the first one of four is bounded where code points could be shorter, or could be
too large. -/
theorem start_quadruple (size : byte.toNat = 0xF0 + lead) (most : lead ≤ 4) :
    start byte =
      .inr ⟨3, if lead = 0 then 0x90 else 0x80, if lead = 4 then 0x8F else 0xBF, lead⟩ := by
  simp only [start, UInt8.lt_iff_toNat_lt, ← UInt8.toNat_inj, UInt8.reduceToNat, size]
  rw [if_neg (by omega), if_neg (by omega), if_neg (by omega), if_neg (by omega),
    if_neg (by omega), if_neg (by omega)]
  by_cases zero : lead = 0
  · simp [zero]
  · by_cases last : lead = 4
    · simp [last]
    · rw [if_neg (by omega), if_pos (by omega), if_neg zero, if_neg last, Nat.add_sub_cancel_left]

end Start

namespace Progress

variable (units : List (Option Char)) {begun : Unfinished} {byte : UInt8} {part : Nat}

theorem feed_first_single (small : byte.toNat < 0x80) :
    feed ⟨units, none⟩ byte = ⟨some (Char.ofNat byte.toNat) :: units, none⟩ := by
  rw [feed]
  dsimp only
  rw [begin, start_single small]

theorem feed_first (lead : start byte = .inr begun) :
    feed ⟨units, none⟩ byte = ⟨units, some begun⟩ := by
  rw [feed]
  dsimp only
  rw [begin, lead]

theorem feed_next (size : byte.toNat = 0x80 + part) (least : begun.low.toNat ≤ 0x80 + part)
    (most : 0x80 + part ≤ begun.high.toNat) :
    feed ⟨units, some begun⟩ byte =
      if begun.owed = 1 then ⟨some (Char.ofNat (begun.value * 64 + part)) :: units, none⟩
      else ⟨units, some ⟨begun.owed - 1, 0x80, 0xBF, begun.value * 64 + part⟩⟩ := by
  have within : begun.low ≤ byte ∧ byte ≤ begun.high := by
    rw [UInt8.le_iff_toNat_le, UInt8.le_iff_toNat_le, size]
    exact ⟨least, most⟩
  rw [feed]
  dsimp only
  rw [if_pos within, size, Nat.add_sub_cancel_left]

variable {first second third fourth : UInt8} {lead next after last : Nat}

theorem feed_double (leading : first.toNat = 0xC0 + lead) (least : 2 ≤ lead) (most : lead < 0x20)
    (ending : second.toNat = 0x80 + last) (small : last < 64) :
    [first, second].foldl feed ⟨units, none⟩ =
      ⟨some (Char.ofNat (lead * 64 + last)) :: units, none⟩ := by
  simp only [List.foldl_cons, List.foldl_nil]
  rw [feed_first _ (start_double leading least most), feed_next _ ending]
  · rfl
  · exact Nat.le_add_right _ _
  · change 0x80 + last ≤ 0xBF
    omega

theorem feed_triple (leading : first.toNat = 0xE0 + lead) (most : lead < 0x10)
    (going : second.toNat = 0x80 + next) (long : lead = 0 → 0x20 ≤ next)
    (scalar : lead = 0xD → next < 0x20) (part : next < 64)
    (ending : third.toNat = 0x80 + last) (small : last < 64) :
    [first, second, third].foldl feed ⟨units, none⟩ =
      ⟨some (Char.ofNat ((lead * 64 + next) * 64 + last)) :: units, none⟩ := by
  simp only [List.foldl_cons, List.foldl_nil]
  rw [feed_first _ (start_triple leading most), feed_next _ going, if_neg (by simp),
    feed_next _ ending]
  · rfl
  · exact Nat.le_add_right _ _
  · change 0x80 + last ≤ 0xBF
    omega
  · dsimp only
    split <;> simp only [UInt8.reduceToNat] <;> omega
  · dsimp only
    split <;> simp only [UInt8.reduceToNat] <;> omega

theorem feed_quadruple (leading : first.toNat = 0xF0 + lead) (most : lead ≤ 4)
    (going : second.toNat = 0x80 + next) (long : lead = 0 → 0x10 ≤ next)
    (within : lead = 4 → next < 0x10) (part : next < 64)
    (coming : third.toNat = 0x80 + after) (later : after < 64)
    (ending : fourth.toNat = 0x80 + last) (small : last < 64) :
    [first, second, third, fourth].foldl feed ⟨units, none⟩ =
      ⟨some (Char.ofNat (((lead * 64 + next) * 64 + after) * 64 + last)) :: units, none⟩ := by
  simp only [List.foldl_cons, List.foldl_nil]
  rw [feed_first _ (start_quadruple leading most), feed_next _ going, if_neg (by simp),
    feed_next _ coming, if_neg (by simp), feed_next _ ending]
  · rfl
  · exact Nat.le_add_right _ _
  · change 0x80 + last ≤ 0xBF
    omega
  · exact Nat.le_add_right _ _
  · change 0x80 + after ≤ 0xBF
    omega
  · dsimp only
    split <;> simp only [UInt8.reduceToNat] <;> omega
  · dsimp only
    split <;> simp only [UInt8.reduceToNat] <;> omega

end Progress

theorem toNat_byte {number value : Nat} (small : number < 0x100) (same : number = value) :
    (UInt8.ofNat number).toNat = value :=
  (UInt8.toNat_ofNat_of_lt' small).trans same

theorem toNat_sixBits (value : Nat) :
    (UInt8.ofNat (value % 64 + 128)).toNat = 0x80 + value % 64 :=
  toNat_byte (by omega) (by omega)

/-- The bytes of a character are read as the character. -/
theorem foldl_feed_letter (units : List (Option Char)) (letter : Char) :
    (String.utf8EncodeChar letter).foldl Progress.feed ⟨units, none⟩ =
      ⟨some letter :: units, none⟩ := by
  have code : Char.ofNat letter.val.toNat = letter := Char.ofNat_toNat letter
  have valid : letter.val.toNat < 0xD800 ∨
    0xDFFF < letter.val.toNat ∧ letter.val.toNat < 0x110000 := letter.valid
  unfold String.utf8EncodeChar
  -- From here on only the code point matters, and that it is no surrogate.
  generalize letter.val.toNat = value at *
  dsimp only
  split
  · have size : (UInt8.ofNat value).toNat = value := toNat_byte (by omega) rfl
    rw [List.foldl_cons, List.foldl_nil, Progress.feed_first_single _ (by omega), size, code]
  · split
    · have first : (UInt8.ofNat (value / 64 % 32 + 192)).toNat = 0xC0 + value / 64 :=
        toNat_byte (by omega) (by omega)
      have whole : value / 64 * 64 + value % 64 = value := by omega
      rw [Progress.feed_double _ first (by omega) (by omega) (toNat_sixBits value) (by omega),
        whole, code]
    · split
      · have first : (UInt8.ofNat (value / 4096 % 16 + 224)).toNat = 0xE0 + value / 4096 :=
          toNat_byte (by omega) (by omega)
        have whole : (value / 4096 * 64 + value / 64 % 64) * 64 + value % 64 = value := by omega
        rw [Progress.feed_triple _ first (by omega) (toNat_sixBits (value / 64)) (by omega)
          (by omega) (by omega) (toNat_sixBits value) (by omega), whole, code]
      · have first : (UInt8.ofNat (value / 262144 % 8 + 240)).toNat = 0xF0 + value / 262144 :=
          toNat_byte (by omega) (by omega)
        have whole : ((value / 262144 * 64 + value / 4096 % 64) * 64 + value / 64 % 64) * 64 +
            value % 64 = value := by omega
        rw [Progress.feed_quadruple _ first (by omega) (toNat_sixBits (value / 4096)) (by omega)
          (by omega) (by omega) (toNat_sixBits (value / 64)) (by omega) (toNat_sixBits value)
          (by omega), whole, code]

theorem foldl_feed_encode (text : List Char) (units : List (Option Char)) :
    (encode text).foldl Progress.feed ⟨units, none⟩ =
      ⟨(text.map some).reverse ++ units, none⟩ := by
  induction text generalizing units with
  | nil => rfl
  | cons letter text inductionHypothesis =>
    have split : encode (letter :: text) = String.utf8EncodeChar letter ++ encode text := by
      simp only [encode, List.flatMap_cons]
    rw [split, List.foldl_append, foldl_feed_letter, inductionHypothesis]
    simp

theorem units_encode (text : List Char) : units (encode text) = text.map some := by
  change Progress.finish ((encode text).foldl Progress.feed ⟨[], none⟩) = _
  rw [foldl_feed_encode]
  simp [Progress.finish]

/-- A text is read as it was written. -/
theorem decode?_encode (text : List Char) : decode? (encode text) = some text := by
  rw [decode?, units_encode]
  induction text with
  | nil => rfl
  | cons letter text inductionHypothesis =>
    rw [List.map_cons, List.mapM_cons, inductionHypothesis]
    rfl

end PacketDivert.Text.Utf8
