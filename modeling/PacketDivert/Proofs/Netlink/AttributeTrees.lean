import Mathlib.Data.List.Forall2
import Mathlib.Data.Nat.Bitwise
import PacketDivert.Proofs.Netlink.AttributeCodec

namespace PacketDivert.Netlink

/-- The fault of a stream, where so many bytes stand in front of it. -/
def AttributeError.behind (bytes : Nat) : AttributeError → AttributeError
  | .truncated offset => .truncated (offset + bytes)
  | .badLength offset length => .badLength (offset + bytes) length

/-- Where a stream begins matters only for the place of its faults. -/
theorem Attribute.parseAt_add (offset bytes : Nat) (stream : Bytes) :
    parseAt (offset + bytes) stream =
      (parseAt offset stream).mapError (AttributeError.behind bytes) := by
  fun_induction parseAt offset stream with
  | case1 => rw [parseAt]; rfl
  | case2 offset first second third fourth rest length bad =>
    rw [parseAt, if_pos bad]
    rfl
  | case3 offset first second third fourth rest length good fault failed inductionHypothesis =>
    rw [Nat.add_right_comm, failed] at inductionHypothesis
    rw [parseAt, if_neg good, inductionHypothesis]
    rfl
  | case4 offset first second third fourth rest length good tail read inductionHypothesis =>
    rw [Nat.add_right_comm, read] at inductionHypothesis
    rw [parseAt, if_neg good, inductionHypothesis]
    rfl
  | case5 offset stream some four =>
    rw [parseAt]
    · rfl
    · exact some
    · exact four

/-- A record to be written: its kind together with the flags, and its data. -/
structure Record where
  written : UInt16
  data : Bytes

namespace Record

/-- A record whose length its header can give. -/
def Fits (record : Record) : Prop := record.data.length ≤ 65531

/-- The attribute that a record is read as. -/
def reading (record : Record) : Attribute := Attribute.ofWritten record.written record.data

def encodeAll : List Record → Bytes
  | [] => []
  | record :: records => Attribute.encode record.written record.data ++ encodeAll records

theorem parseAt_encodeAll_append (offset : Nat) {records : List Record}
    (fits : ∀ record ∈ records, record.Fits) (rest : Bytes) :
    Attribute.parseAt offset (encodeAll records ++ rest) =
      (Attribute.parseAt (offset + (encodeAll records).length) rest).map
        (records.map reading ++ ·) := by
  induction records generalizing offset with
  | nil =>
    cases read : Attribute.parseAt offset rest <;> simp [encodeAll, read, Except.map]
  | cons record records inductionHypothesis =>
    obtain ⟨fitsFirst, fitsRest⟩ := List.forall_mem_cons.mp fits
    rw [encodeAll, List.append_assoc, Attribute.parseAt_encode_of_le _ _ fitsFirst,
      inductionHypothesis _ fitsRest, List.length_append, Nat.add_assoc]
    cases Attribute.parseAt (offset + ((Attribute.encode record.written record.data).length +
      (encodeAll records).length)) rest <;> rfl

/-- Records that nothing follows. -/
theorem parse_encodeAll {records : List Record} (fits : ∀ record ∈ records, record.Fits) :
    Attribute.parse (encodeAll records) = .ok (records.map reading) := by
  have read := parseAt_encodeAll_append 0 fits []
  rw [List.append_nil] at read
  rw [Attribute.parse, read, Attribute.parseAt, Except.map, List.append_nil]

end Record

namespace AttributeTree

/-- A tree as a record. That of a node says that there are records in it. -/
def record : AttributeTree → Record
  | .leaf kind data => ⟨kind, data⟩
  | .node kind children => ⟨kind ||| nestedFlag, encodeAll children⟩

theorem encodeAll_eq (trees : List AttributeTree) :
    encodeAll trees = Record.encodeAll (trees.map record) := by
  induction trees with
  | nil => rw [encodeAll, List.map_nil, Record.encodeAll]
  | cons tree trees inductionHypothesis =>
    rw [encodeAll, inductionHypothesis, List.map_cons, Record.encodeAll]
    cases tree <;> rw [encode] <;> rfl

/-- A tree in which the header of every record can give its length. -/
inductive Fits : AttributeTree → Prop where
  | leaf {kind : UInt16} {data : Bytes} (room : data.length ≤ 65531) : Fits (.leaf kind data)
  | node {kind : UInt16} {children : List AttributeTree}
      (room : (encodeAll children).length ≤ 65531) (inner : ∀ child ∈ children, Fits child) :
      Fits (.node kind children)

theorem record_fits {tree : AttributeTree} (fits : tree.Fits) : tree.record.Fits := by
  cases fits with
  | leaf room => exact room
  | node room => exact room

/-- An attribute that was read where a tree was written: the kind without its two flags, whether
there are attributes in it, and the data. Where there are, they are read from the data in turn. -/
inductive ReadAs : AttributeTree → Attribute → Prop where
  | leaf {written : UInt16} {data : Bytes} {found : Attribute}
      (kind : found.kind.toNat = written.toNat % 0x4000)
      (nested : found.nested = written.toNat.testBit 15)
      (same : found.data = data) : ReadAs (.leaf written data) found
  | node {written : UInt16} {children : List AttributeTree} {found : Attribute}
      {inner : List Attribute}
      (kind : found.kind.toNat = written.toNat % 0x4000)
      (nested : found.nested = true)
      (same : found.data = encodeAll children)
      (read : Attribute.parse found.data = .ok inner)
      (each : List.Forall₂ ReadAs children inner) : ReadAs (.node written children) found

theorem kind_ofWritten (written : UInt16) (data : Bytes) :
    (Attribute.ofWritten written data).kind.toNat = written.toNat % 0x4000 := by
  have mask : ~~~(nestedFlag ||| byteOrderFlag) = 0x3FFF := by decide
  rw [Attribute.ofWritten, mask, UInt16.toNat_and]
  exact Nat.and_two_pow_sub_one_eq_mod written.toNat 14

theorem nested_ofWritten (written : UInt16) (data : Bytes) :
    (Attribute.ofWritten written data).nested = written.toNat.testBit 15 := by
  have flag : (written &&& nestedFlag).toNat = written.toNat &&& 2 ^ 15 := UInt16.toNat_and ..
  rw [Nat.and_two_pow] at flag
  change (written &&& nestedFlag != 0) = _
  cases raised : written.toNat.testBit 15 with
  | false =>
    rw [raised, Bool.toNat_false, Nat.zero_mul] at flag
    rw [bne_eq_false_iff_eq]
    exact UInt16.toNat_inj.mp flag
  | true =>
    rw [raised] at flag
    rw [bne_iff_ne]
    intro none
    rw [none] at flag
    exact absurd flag (by decide)

/-- The flag that says that there are records in a record leaves the kind as it is. -/
theorem kind_nestedFlag (written : UInt16) :
    (written ||| nestedFlag).toNat % 0x4000 = written.toNat % 0x4000 := by
  have split : (written ||| nestedFlag).toNat = written.toNat ||| 2 ^ 15 := UInt16.toNat_or ..
  have apart : 2 ^ 15 % 2 ^ 14 = 0 := by decide
  change _ % 2 ^ 14 = _ % 2 ^ 14
  rw [split, Nat.or_mod_two_pow, apart, Nat.or_zero]

theorem testBit_nestedFlag (written : UInt16) :
    (written ||| nestedFlag).toNat.testBit 15 = true := by
  have split : (written ||| nestedFlag).toNat = written.toNat ||| 2 ^ 15 := UInt16.toNat_or ..
  rw [split, Nat.testBit_or, Nat.testBit_two_pow_self, Bool.or_true]

/-- Trees whose records are read as they were written are records that are. -/
theorem forall_record_fits {trees : List AttributeTree} (fits : ∀ tree ∈ trees, tree.Fits) :
    ∀ written ∈ trees.map record, written.Fits := by
  simp only [List.forall_mem_map]
  exact fun tree member => record_fits (fits tree member)

/-- A record is read as it was written, and so are the records in it. -/
theorem Fits.readAs {tree : AttributeTree} (fits : tree.Fits) :
    ReadAs tree tree.record.reading := by
  induction fits with
  | leaf room => exact .leaf (kind_ofWritten _ _) (nested_ofWritten _ _) rfl
  | @node written children room inner inductionHypothesis =>
    have read : Attribute.parse (encodeAll children) =
        .ok ((children.map record).map Record.reading) := by
      rw [encodeAll_eq]
      exact Record.parse_encodeAll (forall_record_fits inner)
    refine .node ?_ ?_ rfl read ?_
    · rw [← kind_nestedFlag written]
      exact kind_ofWritten _ _
    · rw [← testBit_nestedFlag written]
      exact nested_ofWritten _ _
    · rw [List.map_map, List.forall₂_map_right_iff, List.forall₂_same]
      exact inductionHypothesis

end AttributeTree

/-- Attributes are read as they were written, to any depth, and what stands behind them is read as
if it stood alone. If it has a fault, that is found as many bytes further on as were written. -/
theorem trees_read_back {trees : List AttributeTree} (fits : ∀ tree ∈ trees, tree.Fits)
    (rest : Bytes) :
    ∃ found, List.Forall₂ AttributeTree.ReadAs trees found ∧
      Attribute.parse (AttributeTree.encodeAll trees ++ rest) =
        match Attribute.parse rest with
        | .ok others => .ok (found ++ others)
        | .error fault => .error (fault.behind (AttributeTree.encodeAll trees).length) := by
  refine ⟨trees.map fun tree => tree.record.reading, ?_, ?_⟩
  · rw [List.forall₂_map_right_iff, List.forall₂_same]
    exact fun tree member => (fits tree member).readAs
  · have read := Record.parseAt_encodeAll_append 0 (AttributeTree.forall_record_fits fits) rest
    rw [List.map_map] at read
    rw [AttributeTree.encodeAll_eq, Attribute.parse, read, Attribute.parseAt_add, Attribute.parse]
    cases Attribute.parseAt 0 rest <;> rfl

/-- A record in a record, one without data, and a header that is cut short. -/
theorem trees_read_back_truncated :
    let trees : List AttributeTree := [.node 1 [.leaf 0x4008 [1, 2, 3, 4, 5]], .leaf 0x8002 []]
    (∀ tree ∈ trees, tree.Fits) ∧ (∃ found, List.Forall₂ AttributeTree.ReadAs trees found) ∧
      Attribute.parse (AttributeTree.encodeAll trees ++ [12, 0]) = .error (.truncated 20) := by
  intro trees
  have fits : ∀ tree ∈ trees, tree.Fits := by
    intro tree member
    simp only [trees, List.mem_cons, List.not_mem_nil, or_false] at member
    rcases member with rfl | rfl
    · refine .node (by decide) fun child member => ?_
      rw [List.mem_singleton.mp member]
      exact .leaf (by decide)
    · exact .leaf (by decide)
  obtain ⟨found, readAs, read⟩ := trees_read_back fits [12, 0]
  have cut : Attribute.parse [12, 0] = .error (.truncated 0) := by
    simp [Attribute.parse, Attribute.parseAt]
  rw [cut] at read
  exact ⟨fits, ⟨found, readAs⟩, read⟩

end PacketDivert.Netlink
