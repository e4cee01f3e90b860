import PacketDivert.Proofs.Netlink.AttributeGrammar

namespace PacketDivert.Netlink

namespace Attribute

/-- An attribute as it is written: the flag for records in it is set again. -/
def rewritten (found : Attribute) : Bytes :=
  if found.nested then encodeNested found.kind found.data else encode found.kind found.data

def rewriteAll (found : List Attribute) : Bytes := found.flatMap rewritten

/-- Which bits of a record say something that is read: all of the length and of the data, all of the
kind but the flag for the byte order, and none of the padding. -/
def readBits (found : Attribute) : Bytes :=
  [0xFF, 0xFF, 0xFF, 0xBF] ++ List.replicate found.data.length 0xFF ++
    List.replicate (align (4 + found.data.length) - (4 + found.data.length)) 0

/-- The bits of a stream that say something that is read. -/
def significant (found : List Attribute) (stream : Bytes) : Bytes :=
  List.zipWith (· &&& ·) (found.flatMap readBits) stream

/-- The kind that is written again lacks the flag for the byte order only. -/
theorem kind_rewritten (record : Record) :
    (if record.reading.nested then record.reading.kind ||| nestedFlag else record.reading.kind) =
      record.written &&& ~~~byteOrderFlag := by
  have split : record.reading.kind ||| record.written &&& nestedFlag =
      record.written &&& ~~~byteOrderFlag := by
    apply UInt16.toNat_inj.mp
    rw [Record.reading, ofWritten, UInt16.toNat_or, UInt16.toNat_and, UInt16.toNat_and,
      UInt16.toNat_and, ← Nat.and_or_distrib_left]
    rfl
  have flag : (record.written &&& nestedFlag).toNat = record.written.toNat &&& 2 ^ 15 :=
    UInt16.toNat_and ..
  rw [Nat.and_two_pow, ← AttributeTree.nested_ofWritten record.written record.data] at flag
  have same : (ofWritten record.written record.data).nested = record.reading.nested := rfl
  rw [same] at flag
  rw [← split]
  cases nested : record.reading.nested with
  | true =>
    have raised : record.written &&& nestedFlag = nestedFlag := by
      rw [nested] at flag
      exact UInt16.toNat_inj.mp flag
    rw [raised, if_pos rfl]
  | false =>
    have lowered : record.written &&& nestedFlag = 0 := by
      rw [nested] at flag
      exact UInt16.toNat_inj.mp flag
    rw [lowered, UInt16.or_zero]
    rfl

theorem le16_and (word mask : UInt16) :
    Bytes.le16 (word &&& mask) =
      List.zipWith (· &&& ·) (Bytes.le16 word) (Bytes.le16 mask) := by
  simp only [Bytes.le16, List.zipWith_cons_cons, List.zipWith_nil_left, List.cons.injEq, and_true]
  constructor
  · apply UInt8.toNat_inj.mp
    rw [UInt8.toNat_and, UInt8.toNat_ofNat', UInt8.toNat_ofNat', UInt8.toNat_ofNat',
      UInt16.toNat_and, Nat.and_mod_two_pow]
  · apply UInt8.toNat_inj.mp
    have byte : 0x100 = 2 ^ 8 := rfl
    rw [UInt8.toNat_and, UInt8.toNat_ofNat', UInt8.toNat_ofNat', UInt8.toNat_ofNat',
      UInt16.toNat_and, byte, Nat.and_div_two_pow, Nat.and_mod_two_pow]

theorem length_readBits (found : Attribute) :
    found.readBits.length = align (4 + found.data.length) := by
  have padded := le_align (4 + found.data.length)
  simp only [readBits, List.length_append, List.length_cons, List.length_nil,
    List.length_replicate]
  omega

theorem length_rewritten (found : Attribute) :
    found.rewritten.length = align (4 + found.data.length) := by
  unfold rewritten
  split
  · rw [encodeNested, length_encode]
  · rw [length_encode]

end Attribute

namespace Record

/-- A record without the flag for the byte order. -/
def unordered (record : Record) : Record :=
  { record with written := record.written &&& ~~~byteOrderFlag }

theorem rewritten_reading (record : Record) :
    record.reading.rewritten =
      record.unordered.header ++ record.data ++ Attribute.padding record.data := by
  have kind := Attribute.kind_rewritten record
  have data : record.reading.data = record.data := rfl
  have written : record.reading.rewritten = Attribute.encode
      (if record.reading.nested then record.reading.kind ||| nestedFlag else record.reading.kind)
      record.data := by
    rw [Attribute.rewritten, data]
    cases record.reading.nested <;> rfl
  rw [written, kind]
  rfl

/-- What the header and the data of a record say. -/
def said (record : Record) : Bytes :=
  List.zipWith (· &&& ·) ([0xFF, 0xFF, 0xFF, 0xBF] ++ List.replicate record.data.length 0xFF)
    (record.header ++ record.data)

theorem length_said (record : Record) : record.said.length = 4 + record.data.length := by
  simp only [said, List.length_zipWith, List.length_append, List.length_cons, List.length_nil,
    List.length_replicate, length_header]
  omega

theorem said_unordered (record : Record) : record.unordered.said = record.said := by
  have bits : Bytes.le16 (~~~byteOrderFlag) = [0xFF, 0xBF] := by decide
  have low (byte : UInt8) : 0xFF &&& (byte &&& 0xFF) = 0xFF &&& byte := by
    rw [UInt8.and_comm byte, ← UInt8.and_assoc, UInt8.and_self]
  have high (byte : UInt8) : 0xBF &&& (byte &&& 0xBF) = 0xBF &&& byte := by
    rw [UInt8.and_comm byte, ← UInt8.and_assoc, UInt8.and_self]
  have kind : Bytes.le16 record.unordered.written =
      List.zipWith (· &&& ·) (Bytes.le16 record.written) [0xFF, 0xBF] := by
    rw [← bits, ← Attribute.le16_and]
    rfl
  have data : record.unordered.data = record.data := rfl
  rw [said, said, data, header, header, kind, data]
  simp [Bytes.le16, low, high]

/-- What a record says stands in front of its padding, of which nothing is read. -/
theorem zipWith_readBits (record : Record) {padding : Bytes}
    (padded : 4 + record.data.length + padding.length ≤ align (4 + record.data.length)) :
    List.zipWith (· &&& ·) record.reading.readBits (record.header ++ record.data ++ padding) =
      record.said ++ List.replicate padding.length 0 := by
  have ignored : List.zipWith (· &&& ·)
      (List.replicate (align (4 + record.data.length) - (4 + record.data.length)) (0 : UInt8))
      padding = List.replicate padding.length 0 := by
    apply List.ext_getElem
    · rw [List.length_zipWith, List.length_replicate, List.length_replicate]
      omega
    · intro place _ _
      rw [List.getElem_zipWith, List.getElem_replicate, List.getElem_replicate, UInt8.zero_and]
  have data : record.reading.data = record.data := rfl
  have length :
      ([0xFF, 0xFF, 0xFF, 0xBF] ++ List.replicate record.data.length (0xFF : UInt8)).length =
      (record.header ++ record.data).length := by
    simp only [List.length_append, List.length_cons, List.length_nil, List.length_replicate,
      length_header]
  rw [Attribute.readBits, data, List.zipWith_append length, ignored, said]

theorem zipWith_rewritten (record : Record) :
    List.zipWith (· &&& ·) record.reading.readBits record.reading.rewritten =
      record.said ++ List.replicate (Attribute.padding record.data).length 0 := by
  have padded : 4 + record.data.length + (Attribute.padding record.data).length ≤
      align (4 + record.data.length) := by
    have wider := le_align (4 + record.data.length)
    rw [Attribute.padding, List.length_replicate]
    omega
  rw [rewritten_reading, ← said_unordered]
  exact record.unordered.zipWith_readBits padded

/-- Attributes that are written again take up as much room as the stream that they were read from,
and say the same. -/
theorem Stream.rewrites {stream : Bytes} {records : List Record} (made : Stream stream records) :
    (Attribute.rewriteAll (records.map reading)).length = align stream.length ∧
      Attribute.significant (records.map reading) stream =
        (Attribute.significant (records.map reading)
          (Attribute.rewriteAll (records.map reading))).take stream.length := by
  induction made with
  | nothing => exact ⟨rfl, rfl⟩
  | @last record padding fits padded =>
    have length : (record.header ++ record.data ++ padding).length =
        4 + record.data.length + padding.length := by
      rw [List.length_append, List.length_append, record.length_header]
    have data : record.reading.data = record.data := rfl
    constructor
    · rw [Attribute.rewriteAll, List.map_singleton, List.flatMap_singleton,
        Attribute.length_rewritten, length, data]
      unfold align at padded ⊢
      omega
    · have shorter : min padding.length (Attribute.padding record.data).length =
          padding.length := by
        rw [Attribute.padding, List.length_replicate]
        omega
      rw [Attribute.significant, Attribute.significant, Attribute.rewriteAll, List.map_singleton,
        List.flatMap_singleton, List.flatMap_singleton, length, record.zipWith_readBits padded,
        record.zipWith_rewritten, ← record.length_said, List.take_length_add_append,
        List.take_replicate, shorter]
  | @record record padding others records fits padded more inductionHypothesis =>
    obtain ⟨sameLength, sameSaid⟩ := inductionHypothesis
    have data : record.reading.data = record.data := rfl
    have first : (record.header ++ record.data ++ padding).length =
        align (4 + record.data.length) := by
      rw [List.length_append, List.length_append, record.length_header, padded]
    have bits : record.reading.readBits.length = align (4 + record.data.length) :=
      Attribute.length_readBits _
    have again : record.reading.rewritten.length = align (4 + record.data.length) :=
      Attribute.length_rewritten _
    have full : (Attribute.padding record.data).length = padding.length := by
      rw [Attribute.padding, List.length_replicate]
      omega
    constructor
    · rw [List.map_cons, Attribute.rewriteAll, List.flatMap_cons, ← Attribute.rewriteAll,
        List.length_append, List.length_append, again, sameLength, first]
      unfold align
      omega
    · have head : (record.said ++ List.replicate padding.length 0).length =
          align (4 + record.data.length) := by
        rw [List.length_append, length_said, List.length_replicate, padded]
      unfold Attribute.significant Attribute.rewriteAll at sameSaid ⊢
      rw [List.map_cons, List.flatMap_cons, List.flatMap_cons,
        List.zipWith_append (bits.trans first.symm), List.zipWith_append (bits.trans again.symm),
        record.zipWith_readBits padded.le, record.zipWith_rewritten, full, sameSaid,
        List.length_append, first, ← head, List.take_length_add_append]

end Record

/-- A byte string is read just if it is made of records, and as what they say: attributes that are
written again give the same bytes, up to padding and the flag for the byte order. Any other has one
place up to which it can be read and where the record is bad, and that is its fault. -/
theorem attribute_streams (stream : Bytes) :
    (∀ found, Attribute.parse stream = .ok found ↔
      ∃ records, Record.Stream stream records ∧ found = records.map Record.reading) ∧
    (∀ found, Attribute.parse stream = .ok found →
      (Attribute.rewriteAll found).length = align stream.length ∧
      Attribute.significant found stream =
        (Attribute.significant found (Attribute.rewriteAll found)).take stream.length) ∧
    (∀ fault, Attribute.parse stream = .error fault ↔
      ∃ place, Attribute.Breaks stream place fault) ∧
    ∀ place other fault otherFault, Attribute.Breaks stream place fault →
      Attribute.Breaks stream other otherFault → place = other := by
  refine ⟨fun found => ⟨Attribute.exists_stream, ?_⟩, ?_, ?_, ?_⟩
  · rintro ⟨records, made, rfl⟩
    exact made.parse_eq
  · intro found read
    obtain ⟨records, made, rfl⟩ := Attribute.exists_stream read
    exact made.rewrites
  · intro fault
    refine ⟨Attribute.exists_breaks, ?_⟩
    rintro ⟨place, breaks⟩
    exact breaks.parse_eq
  · intro place other fault otherFault breaks too
    obtain rfl := Except.error.inj (breaks.parse_eq.symm.trans too.parse_eq)
    exact breaks.fault.place_unique too.fault

end PacketDivert.Netlink
