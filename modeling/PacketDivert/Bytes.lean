namespace PacketDivert

/-- A byte string. -/
abbrev Bytes := List UInt8

namespace Bytes

/-- The bytes of a word, least significant first. -/
def le16 (word : UInt16) : Bytes :=
  [UInt8.ofNat word.toNat, UInt8.ofNat (word.toNat / 0x100)]

/-- The bytes of a double word, least significant first. -/
def le32 (word : UInt32) : Bytes :=
  [UInt8.ofNat word.toNat, UInt8.ofNat (word.toNat / 0x100),
    UInt8.ofNat (word.toNat / 0x10000), UInt8.ofNat (word.toNat / 0x1000000)]

/-- The bytes of a word, most significant first. -/
def be16 (word : UInt16) : Bytes := (le16 word).reverse

/-- The bytes of a double word, most significant first. -/
def be32 (word : UInt32) : Bytes := (le32 word).reverse

def word16 (low high : UInt8) : UInt16 :=
  UInt16.ofNat (low.toNat + 0x100 * high.toNat)

/-- The double word whose bytes are given from the least significant on. -/
def word32 (first second third fourth : UInt8) : UInt32 :=
  UInt32.ofNat (first.toNat + 0x100 * second.toNat + 0x10000 * third.toNat +
    0x1000000 * fourth.toNat)

/-- The little-endian words at an offset; missing bytes count as 0. -/
def word16At (bytes : Bytes) (offset : Nat) : UInt16 :=
  word16 (bytes.getD offset 0) (bytes.getD (offset + 1) 0)

def word32At (bytes : Bytes) (offset : Nat) : UInt32 :=
  word32 (bytes.getD offset 0) (bytes.getD (offset + 1) 0) (bytes.getD (offset + 2) 0)
    (bytes.getD (offset + 3) 0)

theorem length_le16 (word : UInt16) : (le16 word).length = 2 := rfl

theorem length_le32 (word : UInt32) : (le32 word).length = 4 := rfl

theorem length_be16 (word : UInt16) : (be16 word).length = 2 := rfl

theorem length_be32 (word : UInt32) : (be32 word).length = 4 := rfl

theorem word16_le16 (word : UInt16) :
    word16 (UInt8.ofNat word.toNat) (UInt8.ofNat (word.toNat / 0x100)) = word := by
  have bound := word.toNat_lt
  apply UInt16.toNat_inj.mp
  simp only [word16, UInt8.toNat_ofNat', UInt16.toNat_ofNat']
  omega

theorem le16_word16 (low high : UInt8) : le16 (word16 low high) = [low, high] := by
  have lowBound := low.toNat_lt
  have highBound := high.toNat_lt
  simp only [le16, word16, List.cons.injEq, and_true]
  constructor
  · apply UInt8.toNat_inj.mp
    rw [UInt8.toNat_ofNat', UInt16.toNat_ofNat']
    omega
  · apply UInt8.toNat_inj.mp
    rw [UInt8.toNat_ofNat', UInt16.toNat_ofNat']
    omega

theorem le32_word32 (first second third fourth : UInt8) :
    le32 (word32 first second third fourth) = [first, second, third, fourth] := by
  have firstBound := first.toNat_lt
  have secondBound := second.toNat_lt
  have thirdBound := third.toNat_lt
  have fourthBound := fourth.toNat_lt
  simp only [le32, word32, List.cons.injEq, and_true]
  refine ⟨?_, ?_, ?_, ?_⟩ <;> apply UInt8.toNat_inj.mp <;>
    simp only [UInt8.toNat_ofNat', UInt32.toNat_ofNat'] <;> omega

theorem word32_le32 (word : UInt32) :
    word32 (UInt8.ofNat word.toNat) (UInt8.ofNat (word.toNat / 0x100))
      (UInt8.ofNat (word.toNat / 0x10000)) (UInt8.ofNat (word.toNat / 0x1000000)) = word := by
  have bound := word.toNat_lt
  apply UInt32.toNat_inj.mp
  simp only [word32, UInt8.toNat_ofNat', UInt32.toNat_ofNat']
  omega

theorem word16At_drop (bytes : Bytes) (start offset : Nat) :
    word16At (bytes.drop start) offset = word16At bytes (start + offset) := by
  simp only [word16At, List.getD_eq_getElem?_getD, List.getElem?_drop, Nat.add_assoc]

theorem word16At_take (bytes : Bytes) {offset stop : Nat} (inside : offset + 2 ≤ stop) :
    word16At (bytes.take stop) offset = word16At bytes offset := by
  have first : offset < stop := by omega
  have second : offset + 1 < stop := by omega
  simp only [word16At, List.getD_eq_getElem?_getD, List.getElem?_take_of_lt first,
    List.getElem?_take_of_lt second]

theorem word32At_take (bytes : Bytes) {offset stop : Nat} (inside : offset + 4 ≤ stop) :
    word32At (bytes.take stop) offset = word32At bytes offset := by
  have first : offset < stop := by omega
  have second : offset + 1 < stop := by omega
  have third : offset + 2 < stop := by omega
  have fourth : offset + 3 < stop := by omega
  simp only [word32At, List.getD_eq_getElem?_getD, List.getElem?_take_of_lt first,
    List.getElem?_take_of_lt second, List.getElem?_take_of_lt third,
    List.getElem?_take_of_lt fourth]

theorem word32At_append {bytes : Bytes} {offset : Nat} (inside : offset + 4 ≤ bytes.length)
    (more : Bytes) : word32At (bytes ++ more) offset = word32At bytes offset := by
  rw [← word32At_take (bytes ++ more) inside, List.take_left]

end Bytes

end PacketDivert
