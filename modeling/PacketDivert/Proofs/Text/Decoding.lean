import PacketDivert.Proofs.Text.Encoding
import Mathlib.Data.List.Basic

namespace PacketDivert.Text.Utf8

theorem val_ofNat {value : Nat} (valid : value.isValidChar) :
    (Char.ofNat value).val.toNat = value := by
  rw [Char.ofNat, dif_pos valid]
  rfl

theorem ofNat_eq (byte : UInt8) {number : Nat} (size : byte.toNat = number) :
    UInt8.ofNat number = byte := by
  rw [← size, UInt8.ofNat_toNat]

section

variable {first second third fourth : UInt8} {lead next after last : Nat}

theorem encodeChar_single (small : first.toNat < 0x80) :
    String.utf8EncodeChar (Char.ofNat first.toNat) = [first] := by
  rw [String.utf8EncodeChar, val_ofNat (.inl (by omega))]
  rw [if_pos (by omega), UInt8.ofNat_toNat]

theorem encodeChar_double (leading : first.toNat = 0xC0 + lead) (least : 2 ≤ lead)
    (most : lead < 0x20) (ending : second.toNat = 0x80 + last) (small : last < 64) :
    String.utf8EncodeChar (Char.ofNat (lead * 64 + last)) = [first, second] := by
  rw [String.utf8EncodeChar, val_ofNat (.inl (by omega))]
  rw [if_neg (by omega), if_pos (by omega), ofNat_eq first (by omega),
    ofNat_eq second (by omega)]

theorem encodeChar_triple (leading : first.toNat = 0xE0 + lead) (most : lead < 0x10)
    (going : second.toNat = 0x80 + next) (long : lead = 0 → 0x20 ≤ next)
    (scalar : lead = 0xD → next < 0x20) (part : next < 64)
    (ending : third.toNat = 0x80 + last) (small : last < 64) :
    String.utf8EncodeChar (Char.ofNat ((lead * 64 + next) * 64 + last)) =
      [first, second, third] := by
  rw [String.utf8EncodeChar, val_ofNat (by unfold Nat.isValidChar; omega)]
  rw [if_neg (by omega), if_neg (by omega), if_pos (by omega), ofNat_eq first (by omega),
    ofNat_eq second (by omega), ofNat_eq third (by omega)]

theorem encodeChar_quadruple (leading : first.toNat = 0xF0 + lead) (most : lead ≤ 4)
    (going : second.toNat = 0x80 + next) (long : lead = 0 → 0x10 ≤ next)
    (within : lead = 4 → next < 0x10) (part : next < 64)
    (coming : third.toNat = 0x80 + after) (later : after < 64)
    (ending : fourth.toNat = 0x80 + last) (small : last < 64) :
    String.utf8EncodeChar (Char.ofNat (((lead * 64 + next) * 64 + after) * 64 + last)) =
      [first, second, third, fourth] := by
  rw [String.utf8EncodeChar, val_ofNat (by unfold Nat.isValidChar; omega)]
  rw [if_neg (by omega), if_neg (by omega), if_neg (by omega),
    ofNat_eq first (by omega), ofNat_eq second (by omega),
    ofNat_eq third (by omega), ofNat_eq fourth (by omega)]

end

/-- A byte that only stands behind others, or that is never used, begins no character. -/
theorem start_stray {byte : UInt8} (low : 0x80 ≤ byte.toNat)
    (stray : byte.toNat < 0xC2 ∨ 0xF4 < byte.toNat) : start byte = .inl none := by
  simp only [start, UInt8.lt_iff_toNat_lt, ← UInt8.toNat_inj, UInt8.reduceToNat]
  rw [if_neg (by omega)]
  by_cases behind : byte.toNat < 0xC2
  · rw [if_pos behind]
  · rw [if_neg behind, if_neg (by omega), if_neg (by omega), if_neg (by omega), if_neg (by omega),
      if_neg (by omega), if_neg (by omega), if_neg (by omega)]

/-- The code point that a character has once its last bytes are there. -/
def gathered (value : Nat) (rest : Bytes) : Nat :=
  rest.foldl (fun value byte => value * 64 + (byte.toNat - 0x80)) value

/-- The first bytes of a character: with any bytes that can be taken next they make a character. -/
def Opens (piece : Bytes) (begun : Unfinished) : Prop :=
  ∀ (next : UInt8) (rest : Bytes), rest.length + 1 = begun.owed →
    begun.low ≤ next ∧ next ≤ begun.high → (∀ byte ∈ rest, 0x80 ≤ byte ∧ byte ≤ 0xBF) →
    piece ++ next :: rest =
      String.utf8EncodeChar (Char.ofNat (gathered begun.value (next :: rest)))

theorem gathered_cons (value : Nat) (byte : UInt8) (rest : Bytes) :
    gathered value (byte :: rest) = gathered (value * 64 + (byte.toNat - 0x80)) rest := by
  rw [gathered, List.foldl_cons, gathered]

theorem gathered_nil (value : Nat) : gathered value [] = value := rfl

theorem Opens.feed {piece : Bytes} {begun : Unfinished} {byte : UInt8} (opens : Opens piece begun)
    (within : begun.low ≤ byte ∧ byte ≤ begun.high) :
    Opens (piece ++ [byte])
      ⟨begun.owed - 1, 0x80, 0xBF, begun.value * 64 + (byte.toNat - 0x80)⟩ := by
  intro next rest length bounds bounded
  have whole := opens byte (next :: rest) (by simp only [List.length_cons] at *; omega) within
    (List.forall_mem_cons.mpr ⟨bounds, bounded⟩)
  rw [List.append_assoc, List.singleton_append, whole, gathered_cons]

/-- The last byte of a character completes it. -/
theorem Opens.encodeChar {piece : Bytes} {begun : Unfinished} {byte : UInt8}
    (opens : Opens piece begun) (last : begun.owed = 1)
    (within : begun.low ≤ byte ∧ byte ≤ begun.high) :
    String.utf8EncodeChar (Char.ofNat (begun.value * 64 + (byte.toNat - 0x80))) =
      piece ++ [byte] :=
  (opens byte [] last.symm within nofun).symm

theorem exists_part {byte : UInt8} (bounds : 0x80 ≤ byte ∧ byte ≤ 0xBF) :
    ∃ part, byte.toNat = 0x80 + part ∧ part < 64 := by
  have least := UInt8.le_iff_toNat_le.mp bounds.1
  have most := UInt8.le_iff_toNat_le.mp bounds.2
  simp only [UInt8.reduceToNat] at least most
  exact ⟨byte.toNat - 0x80, by omega, by omega⟩

theorem opens_double {byte : UInt8} {lead : Nat} (leading : byte.toNat = 0xC0 + lead)
    (least : 2 ≤ lead) (most : lead < 0x20) : Opens [byte] ⟨1, 0x80, 0xBF, lead⟩ := by
  intro second rest length bounds _
  obtain rfl : rest = [] := List.length_eq_zero_iff.mp (Nat.succ.inj length)
  obtain ⟨last, ending, small⟩ := exists_part bounds
  rw [gathered_cons, gathered_nil, ending, Nat.add_sub_cancel_left]
  exact (encodeChar_double leading least most ending small).symm

theorem opens_triple {byte : UInt8} {lead : Nat} (leading : byte.toNat = 0xE0 + lead)
    (most : lead < 0x10) :
    Opens [byte]
      ⟨2, if lead = 0 then 0xA0 else 0x80, if lead = 0xD then 0x9F else 0xBF, lead⟩ := by
  intro second rest length bounds bounded
  obtain ⟨third, rfl⟩ := List.length_eq_one_iff.mp (Nat.succ.inj length)
  obtain ⟨next, going, long, scalar, part⟩ : ∃ next, second.toNat = 0x80 + next ∧
      (lead = 0 → 0x20 ≤ next) ∧ (lead = 0xD → next < 0x20) ∧ next < 64 := by
    refine ⟨second.toNat - 0x80, ?_⟩
    simp only [UInt8.le_iff_toNat_le, apply_ite UInt8.toNat, UInt8.reduceToNat] at bounds
    split at bounds <;> split at bounds <;> omega
  obtain ⟨last, ending, small⟩ := exists_part (bounded third List.mem_cons_self)
  rw [gathered_cons, gathered_cons, gathered_nil, going, ending, Nat.add_sub_cancel_left,
    Nat.add_sub_cancel_left]
  exact (encodeChar_triple leading most going long scalar part ending small).symm

theorem opens_quadruple {byte : UInt8} {lead : Nat} (leading : byte.toNat = 0xF0 + lead)
    (most : lead ≤ 4) :
    Opens [byte]
      ⟨3, if lead = 0 then 0x90 else 0x80, if lead = 4 then 0x8F else 0xBF, lead⟩ := by
  intro second rest length bounds bounded
  obtain ⟨third, fourth, rfl⟩ := List.length_eq_two.mp (Nat.succ.inj length)
  obtain ⟨next, going, long, within, part⟩ : ∃ next, second.toNat = 0x80 + next ∧
      (lead = 0 → 0x10 ≤ next) ∧ (lead = 4 → next < 0x10) ∧ next < 64 := by
    refine ⟨second.toNat - 0x80, ?_⟩
    simp only [UInt8.le_iff_toNat_le, apply_ite UInt8.toNat, UInt8.reduceToNat] at bounds
    split at bounds <;> split at bounds <;> omega
  obtain ⟨boundedThird, boundedFourth, _⟩ : _ ∧ _ ∧ _ := by
    simpa only [List.forall_mem_cons] using bounded
  obtain ⟨after, coming, later⟩ := exists_part boundedThird
  obtain ⟨last, ending, small⟩ := exists_part boundedFourth
  rw [gathered_cons, gathered_cons, gathered_cons, gathered_nil, going, coming, ending,
    Nat.add_sub_cancel_left, Nat.add_sub_cancel_left, Nat.add_sub_cancel_left]
  exact (encodeChar_quadruple leading most going long within part coming later ending small).symm

/-- A byte makes a character of its own, begins one, or does neither. -/
theorem start_cases (byte : UInt8) :
    (∃ letter, start byte = .inl (some letter) ∧ String.utf8EncodeChar letter = [byte]) ∨
      start byte = .inl none ∨ ∃ begun, start byte = .inr begun ∧ Opens [byte] begun := by
  by_cases single : byte.toNat < 0x80
  · exact .inl ⟨_, start_single single, encodeChar_single single⟩
  by_cases stray : byte.toNat < 0xC2 ∨ 0xF4 < byte.toNat
  · exact .inr (.inl (start_stray (by omega) stray))
  by_cases double : byte.toNat < 0xE0
  · have leading : byte.toNat = 0xC0 + (byte.toNat - 0xC0) := by omega
    exact .inr (.inr ⟨_, start_double leading (by omega) (by omega),
      opens_double leading (by omega) (by omega)⟩)
  by_cases triple : byte.toNat < 0xF0
  · have leading : byte.toNat = 0xE0 + (byte.toNat - 0xE0) := by omega
    exact .inr (.inr ⟨_, start_triple leading (by omega), opens_triple leading (by omega)⟩)
  · have leading : byte.toNat = 0xF0 + (byte.toNat - 0xF0) := by omega
    exact .inr (.inr ⟨_, start_quadruple leading (by omega), opens_quadruple leading (by omega)⟩)

theorem encode_concat (text : List Char) (letter : Char) :
    encode (text ++ [letter]) = encode text ++ String.utf8EncodeChar letter := by
  simp only [encode, List.flatMap_append, List.flatMap_singleton]

namespace Progress

/-- What is read in some bytes: an ill-formed piece, or the characters of all but the last ones,
which open another. -/
def Accounts (progress : Progress) (bytes : Bytes) : Prop :=
  none ∈ progress.units ∨ ∃ text piece, progress.units = (text.map some).reverse ∧
    bytes = encode text ++ piece ∧ (∀ begun, progress.begun = some begun → Opens piece begun) ∧
    (progress.begun = none → piece = [])

theorem mem_units_begin {progress : Progress} (illFormed : none ∈ progress.units) (byte : UInt8) :
    none ∈ (progress.begin byte).units := by
  unfold begin
  split
  · exact List.mem_cons_of_mem _ illFormed
  · exact illFormed

theorem Accounts.begin {progress : Progress} {bytes : Bytes} (accounts : progress.Accounts bytes)
    (waiting : progress.begun = none) (byte : UInt8) :
    (progress.begin byte).Accounts (bytes ++ [byte]) := by
  obtain illFormed | ⟨text, piece, units, split, _, empty⟩ := accounts
  · exact .inl (mem_units_begin illFormed byte)
  · rw [split, empty waiting, List.append_nil]
    obtain ⟨letter, made, single⟩ | stray | ⟨begun, begins, opens⟩ := start_cases byte
    · refine .inr ⟨text ++ [letter], [], ?_, ?_, ?_, fun _ => rfl⟩
      · simp only [Progress.begin, made, units, List.map_append, List.reverse_append]
        rfl
      · rw [encode_concat, single, List.append_nil]
      · simp only [Progress.begin, made]
        rintro _ ⟨⟩
    · exact .inl (by simp only [Progress.begin, stray, List.mem_cons_self])
    · refine .inr ⟨text, [byte], ?_, rfl, ?_, ?_⟩
      · simp only [Progress.begin, begins, units]
      · simp only [Progress.begin, begins]
        rintro _ ⟨⟩
        exact opens
      · simp only [Progress.begin, begins]
        rintro ⟨⟩

theorem Accounts.feed {progress : Progress} {bytes : Bytes} (accounts : progress.Accounts bytes)
    (byte : UInt8) : (progress.feed byte).Accounts (bytes ++ [byte]) := by
  obtain ⟨units, begun⟩ := progress
  cases begun with
  | none => exact accounts.begin rfl byte
  | some begun =>
    unfold Progress.feed
    dsimp only
    split
    · rename_i within
      obtain illFormed | ⟨text, piece, read, split, opens, _⟩ := accounts
      · split
        · exact .inl (List.mem_cons_of_mem _ illFormed)
        · exact .inl illFormed
      · have opens := opens begun rfl
        split
        · rename_i last
          refine .inr ⟨text ++ [Char.ofNat (begun.value * 64 + (byte.toNat - 0x80))], [], ?_, ?_,
            nofun, fun _ => rfl⟩
          · rw [List.map_append, List.reverse_append, ← read]
            rfl
          · rw [encode_concat, opens.encodeChar last within, split, List.append_nil,
              List.append_assoc]
        · refine .inr ⟨text, piece ++ [byte], read, ?_, ?_, nofun⟩
          · rw [split, List.append_assoc]
          · rintro _ ⟨⟩
            exact opens.feed within
    · exact .inl (mem_units_begin List.mem_cons_self byte)

theorem Accounts.foldl {progress : Progress} {bytes : Bytes} (accounts : progress.Accounts bytes)
    (more : Bytes) : (more.foldl Progress.feed progress).Accounts (bytes ++ more) := by
  induction more generalizing progress bytes with
  | nil =>
    rw [List.append_nil]
    exact accounts
  | cons byte more inductionHypothesis =>
    rw [List.append_cons]
    exact inductionHypothesis (accounts.feed byte)

/-- What is read as characters throughout was written from them. -/
theorem Accounts.eq_encode {progress : Progress} {bytes : Bytes} {text : List Char}
    (accounts : progress.Accounts bytes) (whole : progress.finish = text.map some) :
    bytes = encode text := by
  have formed : none ∉ text.map some := by simp
  obtain ⟨units, begun⟩ := progress
  cases begun with
  | some begun =>
    refine absurd ?_ formed
    rw [← whole]
    exact List.mem_reverse.mpr List.mem_cons_self
  | none =>
    have read : units.reverse = text.map some := whole
    obtain illFormed | ⟨found, piece, letters, split, _, empty⟩ := accounts
    · refine absurd ?_ formed
      rw [← read]
      exact List.mem_reverse.mpr illFormed
    · have letters : units = (found.map some).reverse := letters
      rw [letters, List.reverse_reverse] at read
      rw [split, empty rfl, List.append_nil,
        (List.map_inj_right fun _ _ => Option.some.inj).mp read]

end Progress

theorem accounts (bytes : Bytes) : (bytes.foldl Progress.feed {}).Accounts bytes := by
  have begun : Progress.Accounts {} [] :=
    .inr ⟨[], [], rfl, rfl, fun _ found => (nomatch found), fun _ => rfl⟩
  exact begun.foldl bytes

theorem eq_map_of_mapM_id {units : List (Option Char)} {text : List Char}
    (read : units.mapM id = some text) : units = text.map some := by
  induction units generalizing text with
  | nil =>
    cases read
    rfl
  | cons unit units inductionHypothesis =>
    rw [List.mapM_cons] at read
    cases unit with
    | none => exact nomatch read
    | some letter =>
      cases rest : units.mapM id with
      | none =>
        rw [rest] at read
        exact nomatch read
      | some letters =>
        rw [rest] at read
        cases read
        rw [inductionHypothesis rest]
        rfl

/-- A byte string is read as a text just when it was written from it. -/
theorem decode?_eq_some_iff {bytes : Bytes} {text : List Char} :
    decode? bytes = some text ↔ bytes = encode text := by
  constructor
  · intro read
    exact (accounts bytes).eq_encode (eq_map_of_mapM_id read)
  · rintro rfl
    exact decode?_encode text

end PacketDivert.Text.Utf8
