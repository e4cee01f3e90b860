import PacketDivert.Bytes

/-! UTF-8 read byte by byte. The units of a byte string are its characters and, between them, its
maximal ill-formed pieces: a piece ends before the first byte that cannot continue it. -/

namespace PacketDivert.Text.Utf8

/-- A character begun but not finished: the bytes it still lacks, the range of the next one, and
the code point gathered so far. -/
structure Unfinished where
  owed : Nat
  low : UInt8
  high : UInt8
  value : Nat

/-- What a byte at the start of a character gives: a unit of its own or an unfinished one. -/
def start (byte : UInt8) : Option Char ⊕ Unfinished :=
  if byte < 0x80 then .inl (some (Char.ofNat byte.toNat))
  else if byte < 0xC2 then .inl none
  else if byte < 0xE0 then .inr ⟨1, 0x80, 0xBF, byte.toNat - 0xC0⟩
  else if byte = 0xE0 then .inr ⟨2, 0xA0, 0xBF, 0⟩
  else if byte = 0xED then .inr ⟨2, 0x80, 0x9F, 0xD⟩
  else if byte < 0xF0 then .inr ⟨2, 0x80, 0xBF, byte.toNat - 0xE0⟩
  else if byte = 0xF0 then .inr ⟨3, 0x90, 0xBF, 0⟩
  else if byte < 0xF4 then .inr ⟨3, 0x80, 0xBF, byte.toNat - 0xF0⟩
  else if byte = 0xF4 then .inr ⟨3, 0x80, 0x8F, 4⟩
  else .inl none

/-- The units read so far, the last one first, and an unfinished character if there is one. -/
structure Progress where
  units : List (Option Char) := []
  begun : Option Unfinished := none

def Progress.begin (progress : Progress) (byte : UInt8) : Progress :=
  match start byte with
  | .inl unit => { units := unit :: progress.units, begun := none }
  | .inr begun => { progress with begun := some begun }

/-- A byte that cannot continue an unfinished character ends an ill-formed piece and begins anew. -/
def Progress.feed (progress : Progress) (byte : UInt8) : Progress :=
  match progress.begun with
  | none => progress.begin byte
  | some begun =>
    if begun.low ≤ byte ∧ byte ≤ begun.high then
      let value := begun.value * 64 + (byte.toNat - 0x80)
      if begun.owed = 1 then { units := some (Char.ofNat value) :: progress.units, begun := none }
      else { progress with begun := some ⟨begun.owed - 1, 0x80, 0xBF, value⟩ }
    else
      Progress.begin { units := none :: progress.units, begun := none } byte

def Progress.finish (progress : Progress) : List (Option Char) :=
  match progress.begun with
  | none => progress.units.reverse
  | some _ => (none :: progress.units).reverse

/-- Characters, with `none` for each maximal ill-formed piece. -/
def units (bytes : Bytes) : List (Option Char) := (bytes.foldl Progress.feed {}).finish

/-- The characters of a well-formed byte string. -/
def decode? (bytes : Bytes) : Option (List Char) := (units bytes).mapM id

/-- The characters of any byte string, each ill-formed piece replaced by U+FFFD. -/
def decodeLossy (bytes : Bytes) : List Char :=
  (units bytes).map (·.getD (Char.ofNat 0xFFFD))

end PacketDivert.Text.Utf8
