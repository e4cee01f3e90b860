import PacketDivert.Proofs.Netlink.AttributeTrees

namespace PacketDivert.Netlink

/-- An attribute that is appended to an entry: as it is, or as one that holds attributes. -/
inductive Addition where
  | plain (kind : UInt16) (data : Bytes)
  | nested (kind : UInt16) (inner : Bytes)

namespace Addition

def kind : Addition → UInt16
  | .plain kind _ => kind
  | .nested kind _ => kind

def data : Addition → Bytes
  | .plain _ data => data
  | .nested _ inner => inner

def encode : Addition → Bytes
  | .plain kind data => Attribute.encode kind data
  | .nested kind inner => Attribute.encodeNested kind inner

def encodeAll (additions : List Addition) : Bytes := additions.flatMap encode

/-- The same as a record, the flag for attributes inside being a part of what is written. -/
def record : Addition → Record
  | .plain kind data => ⟨kind, data⟩
  | .nested kind inner => ⟨kind ||| nestedFlag, inner⟩

/-- An attribute that is not the id of a connection, and that its header describes. -/
structure Beside (addition : Addition) : Prop where
  kind : addition.kind.toNat % 0x4000 ≠ ConntrackKind.id.code.toNat
  fits : addition.data.length ≤ 65531

theorem encodeAll_eq (additions : List Addition) :
    encodeAll additions = Record.encodeAll (additions.map record) := by
  induction additions with
  | nil => rfl
  | cons addition additions inductionHypothesis =>
    rw [encodeAll, List.flatMap_cons, ← encodeAll, inductionHypothesis, List.map_cons,
      Record.encodeAll]
    cases addition <;> rfl

theorem record_fits {addition : Addition} (beside : addition.Beside) : addition.record.Fits := by
  cases addition <;> exact beside.fits

theorem kind_reading (addition : Addition) :
    addition.record.reading.kind.toNat = addition.kind.toNat % 0x4000 := by
  cases addition with
  | plain kind data => exact AttributeTree.kind_ofWritten kind data
  | nested kind inner =>
    change _ = kind.toNat % 0x4000
    rw [← AttributeTree.kind_nestedFlag kind]
    exact AttributeTree.kind_ofWritten (kind ||| nestedFlag) inner

/-- What stands beside the id is passed over when the id is sought. -/
theorem isId_reading {addition : Addition} (beside : addition.Beside) :
    (addition.record.reading.kind == ConntrackKind.id.code) = false := by
  apply beq_eq_false_iff_ne.mpr
  intro same
  exact beside.kind (addition.kind_reading ▸ congrArg UInt16.toNat same)

end Addition

/-- The kind of an id attribute together with its two flags. -/
def idKind (nested byteOrder : Bool) : UInt16 :=
  ConntrackKind.id.code ||| (if nested then nestedFlag else 0) |||
    (if byteOrder then byteOrderFlag else 0)

theorem kind_ofWritten_idKind (nested byteOrder : Bool) (data : Bytes) :
    (Attribute.ofWritten (idKind nested byteOrder) data).kind = ConntrackKind.id.code := by
  change idKind nested byteOrder &&& ~~~(nestedFlag ||| byteOrderFlag) = _
  cases nested <;> cases byteOrder <;> decide

theorem Attribute.word?_be32 (written : UInt16) (id : UInt32) (more : Bytes) :
    (ofWritten written (Bytes.be32 id ++ more)).word? = some id :=
  congrArg some (Bytes.word32_le32 id)

theorem Attribute.word?_of_lt (written : UInt16) {data : Bytes} (short : data.length < 4) :
    (ofWritten written data).word? = none := by
  match data, short with
  | [], _ => rfl
  | [_], _ => rfl
  | [_, _], _ => rfl
  | [_, _, _], _ => rfl
  | _ :: _ :: _ :: _ :: data, short =>
    simp only [List.length_cons] at short
    omega

/-- The first id attribute of an entry decides, provided that what follows it can be read. -/
theorem conntrackId_of_first {before : List Addition}
    (beside : ∀ addition ∈ before, addition.Beside)
    (nested byteOrder : Bool) {data : Bytes} (fits : data.length ≤ 65531) (after : Bytes) :
    conntrackId
        (Addition.encodeAll before ++ Attribute.encode (idKind nested byteOrder) data ++ after) =
      match Attribute.parse after with
      | .ok _ => (Attribute.ofWritten (idKind nested byteOrder) data).word?
      | .error _ => none := by
  have fitsBefore : ∀ record ∈ before.map Addition.record, record.Fits := by
    simp only [List.forall_mem_map]
    exact fun addition member => Addition.record_fits (beside addition member)
  have passed : ((before.map Addition.record).map Record.reading).find?
      (·.kind == ConntrackKind.id.code) = none := by
    rw [List.find?_eq_none]
    simp only [List.map_map, List.mem_map, forall_exists_index, and_imp]
    rintro _ addition member rfl
    rw [Function.comp_apply, Addition.isId_reading (beside addition member)]
    exact Bool.false_ne_true
  have found : (Attribute.ofWritten (idKind nested byteOrder) data).kind ==
      ConntrackKind.id.code := beq_iff_eq.mpr (kind_ofWritten_idKind nested byteOrder data)
  rw [conntrackId, Addition.encodeAll_eq, List.append_assoc, Attribute.parse,
    Record.parseAt_encodeAll_append 0 fitsBefore, Attribute.parseAt_encode_of_le _ _ fits,
    Nat.zero_add, ← Nat.zero_add ((Record.encodeAll _).length + _), Attribute.parseAt_add,
    ← Attribute.parse]
  cases Attribute.parse after with
  | error fault => rfl
  | ok others =>
    simp only [Except.mapError, Except.map, List.find?_append, passed, Option.none_or,
      List.find?_cons, found]

/-- An id is found behind any other attributes, with any flags, with any further data that its
attribute has room for, and in front of anything that can be read, further ids included. What cannot
be read takes the id with it, and so does a first id attribute of less than four bytes. -/
theorem connection_id_found {before : List Addition} (beside : ∀ addition ∈ before, addition.Beside)
    (nested byteOrder : Bool) (after : Bytes) :
    (∀ (id : UInt32) (more : Bytes), more.length ≤ 65527 →
      conntrackId (Addition.encodeAll before ++
          Attribute.encode (idKind nested byteOrder) (Bytes.be32 id ++ more) ++ after) =
        match Attribute.parse after with
        | .ok _ => some id
        | .error _ => none) ∧
    (∀ data : Bytes, data.length < 4 →
      conntrackId (Addition.encodeAll before ++
          Attribute.encode (idKind nested byteOrder) data ++ after) = none) := by
  constructor
  · intro id more room
    have fits : (Bytes.be32 id ++ more).length ≤ 65531 := by
      rw [List.length_append, Bytes.length_be32]
      omega
    rw [conntrackId_of_first beside nested byteOrder fits, Attribute.word?_be32]
  · intro data short
    have fits : data.length ≤ 65531 := by omega
    rw [conntrackId_of_first beside nested byteOrder fits, Attribute.word?_of_lt _ short]
    cases Attribute.parse after <;> rfl

/-- An id inside another attribute, a flagged id with a byte behind it, and another id after it. -/
theorem connection_id_found_between :
    let before : List Addition :=
      [.nested 1 (Attribute.encode 12 (Bytes.be32 7)), .plain 0x4008 [5]]
    let after := Attribute.encode 12 (Bytes.be32 9)
    (∀ addition ∈ before, addition.Beside) ∧ [0xFF].length ≤ 65527 ∧ [0, 42].length < 4 ∧
      conntrackId (Addition.encodeAll before ++
        Attribute.encode (idKind false true) (Bytes.be32 42 ++ [0xFF]) ++ after) = some 42 ∧
      conntrackId (Addition.encodeAll before ++
        Attribute.encode (idKind false true) [0, 42] ++ after) = none := by
  intro before after
  have beside : ∀ addition ∈ before, addition.Beside := by
    simp only [before, List.forall_mem_cons, List.not_mem_nil, false_implies, implies_true,
      and_true]
    exact ⟨⟨by decide, by decide⟩, ⟨by decide, by decide⟩⟩
  have read : Attribute.parse after = .ok [Attribute.ofWritten 12 (Bytes.be32 9)] :=
    Attribute.parseAt_encode_last 0 12 (by decide)
  obtain ⟨found, lost⟩ := connection_id_found beside false true after
  refine ⟨beside, by decide, by decide, ?_, lost _ (by decide)⟩
  rw [found 42 [0xFF] (by decide), read]

/-- An id attribute whose data is longer than its header can say is not found, though nothing at all
follows it. -/
theorem oversized_id_unread :
    Attribute.parse [] = .ok [] ∧
      conntrackId (Addition.encodeAll [] ++
        Attribute.encode (idKind false false) (Bytes.be32 42 ++ List.replicate 65528 0) ++ []) =
          none := by
  have oversized : 65531 < (Bytes.be32 42 ++ List.replicate 65528 0).length := by
    rw [List.length_append, Bytes.length_be32, List.length_replicate]
    decide
  have wrapped : Attribute.writtenLength (Bytes.be32 42 ++ List.replicate 65528 0) = 0 := by
    rw [Attribute.writtenLength, List.length_append, Bytes.length_be32, List.length_replicate]
  have broken : Attribute.parse
      (Attribute.encode (idKind false false) (Bytes.be32 42 ++ List.replicate 65528 0) ++ []) =
        .error (.badLength 0 0) := by
    rw [Attribute.parse, Attribute.parseAt_encode_of_gt 0 _ oversized, wrapped]
    rfl
  have nothing : Attribute.parse [] = .ok [] := by
    rw [Attribute.parse, Attribute.parseAt]
  refine ⟨nothing, ?_⟩
  rw [Addition.encodeAll, List.flatMap_nil, List.nil_append, conntrackId, broken]

end PacketDivert.Netlink
