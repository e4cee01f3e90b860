import Mathlib.Data.Nat.Bitwise
import PacketDivert.Netlink.Attribute

/-! Arithmetic with machine words of 64 bits and looks into a buffer, where nothing is taken for
granted: a sum needs room in its word, and what is looked at has to lie in the buffer. Numbers that
are small enough are added, rounded and compared as words just as they are. -/

namespace PacketDivert.Netlink

/-- What can go wrong with words and buffers, whatever they hold: a number that has no room in its
word, a look outside of a buffer, an offset too far behind its end, and a loop that goes on for too
long. -/
inductive Mishap where
  | overflow
  | outside
  | astray
  | endless
  deriving DecidableEq, Repr

namespace Words

def size (buffer : Bytes) : UInt64 := .ofNat buffer.length

def add (left right : UInt64) : Except Mishap UInt64 :=
  if left.toNat + right.toNat < 2 ^ 64 then .ok (left + right) else .error .overflow

/-- Every code has a negation but the least. -/
def negate (code : Int32) : Except Mishap Int32 :=
  if code = Int32.minValue then .error .overflow else .ok (-code)

def slice (buffer : Bytes) (start stop : UInt64) : Except Mishap Bytes :=
  if start.toNat ≤ stop.toNat ∧ stop.toNat ≤ buffer.length then
    .ok ((buffer.drop start.toNat).take (stop.toNat - start.toNat))
  else .error .outside

def word16 (part : Bytes) (place : Nat) : Except Mishap UInt16 :=
  if place + 2 ≤ part.length then .ok (Bytes.word16At part place) else .error .outside

def word32 (part : Bytes) (place : Nat) : Except Mishap UInt32 :=
  if place + 4 ≤ part.length then .ok (Bytes.word32At part place) else .error .outside

/-- The offset behind a record and its padding. It may be behind the end, but not by more than the
padding. -/
def advance (buffer : Bytes) (offset length : UInt64) : Except Mishap UInt64 := do
  let _ ← add length 3
  let next ← add offset (alignWord length)
  if next.toNat ≤ buffer.length + 3 then .ok next else .error .astray

variable {buffer : Bytes} {offset : Nat}

theorem ok_bind {α β : Type} (value : α) (next : α → Except Mishap β) :
    (Except.ok value >>= next) = next value := rfl

theorem toNat_ofNat {number : Nat} (room : number < 2 ^ 64) :
    (UInt64.ofNat number).toNat = number :=
  UInt64.toNat_ofNat_of_lt' room

theorem add_ofNat {left right : Nat} (room : left + right < 2 ^ 64) :
    add (.ofNat left) (.ofNat right) = .ok (.ofNat (left + right)) := by
  rw [add, toNat_ofNat (by omega), toNat_ofNat (by omega), if_pos room, UInt64.ofNat_add]

theorem alignWord_ofNat {length : Nat} (room : length + 3 < 2 ^ 64) :
    alignWord (.ofNat length) = .ofNat (align length) := by
  have mask : (2 : Nat) ^ 64 - 1 - 3 = (2 ^ 62 - 1) * 2 ^ 2 := by decide
  have four : align length = (length + 3) / 2 ^ 2 * 2 ^ 2 := rfl
  have rounded : align length < 2 ^ 64 := Nat.lt_of_le_of_lt (Nat.div_mul_le_self ..) room
  have sum : (UInt64.ofNat length + 3).toNat = length + 3 := by
    have added : UInt64.ofNat length + 3 = .ofNat (length + 3) := (UInt64.ofNat_add length 3).symm
    rw [added, toNat_ofNat room]
  have kept : (~~~(3 : UInt64)).toNat = 2 ^ 64 - 1 - 3 := rfl
  apply UInt64.toNat_inj.mp
  rw [alignWord, UInt64.toNat_and, sum, kept, toNat_ofNat rounded, four, mask]
  apply Nat.eq_of_testBit_eq
  intro bit
  rw [Nat.testBit_and, Nat.testBit_mul_two_pow, Nat.testBit_mul_two_pow,
    Nat.testBit_two_pow_sub_one,
    Nat.testBit_div_two_pow]
  by_cases high : 2 ≤ bit
  · by_cases inside : bit < 64
    · have low : bit - 2 < 62 := by omega
      rw [Nat.sub_add_cancel high, decide_eq_true low, Bool.and_true, Bool.and_comm]
    · have beyond : (length + 3).testBit bit = false :=
        Nat.testBit_lt_two_pow
          (Nat.lt_of_lt_of_le room (Nat.pow_le_pow_right (by decide) (by omega)))
      rw [Nat.sub_add_cancel high, beyond, Bool.false_and, Bool.and_false]
  · rw [decide_eq_false high, Bool.false_and, Bool.false_and, Bool.and_false]

/-- A part of what stands at an offset. -/
theorem slice_ofNat (roomy : buffer.length < 2 ^ 63) {stream : Bytes}
    (rest : buffer.drop offset = stream) {start stop : Nat} (ordered : start ≤ stop)
    (inside : offset + stop ≤ buffer.length) :
    slice buffer (.ofNat (offset + start)) (.ofNat (offset + stop)) =
      .ok ((stream.take stop).drop start) := by
  have within : offset + start ≤ offset + stop ∧ offset + stop ≤ buffer.length :=
    ⟨Nat.add_le_add_left ordered offset, inside⟩
  rw [slice, toNat_ofNat (by omega), toNat_ofNat (by omega), if_pos within, Nat.add_sub_add_left,
    ← List.drop_drop, rest, List.drop_take]

theorem size_lt_ofNat (roomy : buffer.length < 2 ^ 63) {place : Nat} (room : place < 2 ^ 64) :
    size buffer < .ofNat place ↔ buffer.length < place := by
  rw [UInt64.lt_iff_toNat_lt, size, toNat_ofNat (by omega), toNat_ofNat room]

theorem size_le_ofNat (roomy : buffer.length < 2 ^ 63) {place : Nat} (room : place < 2 ^ 64) :
    size buffer ≤ .ofNat place ↔ buffer.length ≤ place := by
  rw [UInt64.le_iff_toNat_le, size, toNat_ofNat (by omega), toNat_ofNat room]

theorem min_size_ofNat (roomy : buffer.length < 2 ^ 63) {place : Nat} (room : place < 2 ^ 64) :
    min (size buffer) (.ofNat place) = .ofNat (min buffer.length place) := by
  by_cases beyond : buffer.length ≤ place
  · rw [Nat.min_eq_left beyond]
    exact if_pos ((size_le_ofNat roomy room).mpr beyond)
  · rw [Nat.min_eq_right (by omega)]
    exact if_neg (mt (size_le_ofNat roomy room).mp beyond)

theorem advance_ofNat {length : Nat} (roomy : buffer.length < 2 ^ 63)
    (fits : offset + length ≤ buffer.length) :
    advance buffer (.ofNat offset) (.ofNat length) = .ok (.ofNat (offset + align length)) := by
  have near := align_lt length
  have raised : add (.ofNat length) 3 = .ok (.ofNat (length + 3)) :=
    @add_ofNat length 3 (by omega)
  rw [advance, raised, ok_bind, alignWord_ofNat (by omega), add_ofNat (by omega), ok_bind,
    toNat_ofNat (by omega), if_pos (by omega)]

theorem word16_take {stream : Bytes} {place stop : Nat} (inside : place + 2 ≤ stop)
    (whole : stop ≤ stream.length) :
    word16 (stream.take stop) place = .ok (Bytes.word16At stream place) := by
  have room : place + 2 ≤ (stream.take stop).length := by
    rwa [List.length_take_of_le whole]
  rw [word16, if_pos room, Bytes.word16At_take stream inside]

theorem word32_take {stream : Bytes} {place stop : Nat} (inside : place + 4 ≤ stop)
    (whole : stop ≤ stream.length) :
    word32 (stream.take stop) place = .ok (Bytes.word32At stream place) := by
  have room : place + 4 ≤ (stream.take stop).length := by
    rwa [List.length_take_of_le whole]
  rw [word32, if_pos room, Bytes.word32At_take stream inside]

end Words

end PacketDivert.Netlink
