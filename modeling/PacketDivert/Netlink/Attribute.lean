import PacketDivert.Bytes

/-! Netlink attributes: a 4-byte header (length, kind), data, and padding to a multiple of four. The
two top bits of a kind are flags; the upper one marks data that is itself a list of attributes. -/

namespace PacketDivert.Netlink

/-- Lengths of records are rounded up to a multiple of four. -/
def align (length : Nat) : Nat := (length + 3) / 4 * 4

/-- The same rounding in 64-bit arithmetic. -/
def alignWord (length : UInt64) : UInt64 := (length + 3) &&& ~~~3

theorem le_align (length : Nat) : length ≤ align length := by
  unfold align; omega

theorem align_lt (length : Nat) : align length < length + 4 := by
  unfold align; omega

def nestedFlag : UInt16 := 0x8000

def byteOrderFlag : UInt16 := 0x4000

structure Attribute where
  kind : UInt16
  nested : Bool
  data : Bytes
  deriving DecidableEq, Repr

inductive AttributeError where
  | truncated (offset : Nat)
  | badLength (offset length : Nat)
  deriving DecidableEq, Repr

def AttributeError.message : AttributeError → String
  | .truncated offset => s!"attribute header truncated at offset {offset}"
  | .badLength offset length => s!"attribute at offset {offset} has invalid length {length}"

namespace Attribute

/-- An attribute as its header and data describe it: the flags are taken off the written kind. -/
def ofWritten (written : UInt16) (data : Bytes) : Attribute where
  kind := written &&& ~~~(nestedFlag ||| byteOrderFlag)
  nested := written &&& nestedFlag != 0
  data := data

/-- Reads the records of a stream whose first byte stands at `offset`. A record must fit its
stream; only the padding of the last one may be cut short. -/
def parseAt (offset : Nat) : Bytes → Except AttributeError (List Attribute)
  | [] => .ok []
  | first :: second :: third :: fourth :: rest =>
    let length := (Bytes.word16 first second).toNat
    if length < 4 ∨ (rest.take (length - 4)).length < length - 4 then
      .error (.badLength offset length)
    else
      match parseAt (offset + align length) (rest.drop (align length - 4)) with
      | .error fault => .error fault
      | .ok tail => .ok (ofWritten (Bytes.word16 third fourth) (rest.take (length - 4)) :: tail)
  | _ => .error (.truncated offset)
  termination_by stream => stream.length
  decreasing_by simp only [List.length_cons, List.length_drop]; omega

def parse (stream : Bytes) : Except AttributeError (List Attribute) := parseAt 0 stream

/-- One record. The header has 16 bits for the length, so only data of at most 65531 bytes is
described by it. -/
def encode (kind : UInt16) (data : Bytes) : Bytes :=
  Bytes.le16 (UInt16.ofNat (4 + data.length)) ++ Bytes.le16 kind ++ data ++
    List.replicate (align (4 + data.length) - (4 + data.length)) 0

/-- One record whose data is a list of records. -/
def encodeNested (kind : UInt16) (inner : Bytes) : Bytes := encode (kind ||| nestedFlag) inner

theorem length_encode (kind : UInt16) (data : Bytes) :
    (encode kind data).length = align (4 + data.length) := by
  have := le_align (4 + data.length)
  simp only [encode, List.length_append, Bytes.length_le16, List.length_replicate]
  omega

/-- The first four data bytes as a big-endian double word. -/
def word? (record : Attribute) : Option UInt32 :=
  match record.data with
  | first :: second :: third :: fourth :: _ => some (Bytes.word32 fourth third second first)
  | _ => none

end Attribute

/-- Attributes to be written, to any depth. -/
inductive AttributeTree where
  | leaf (kind : UInt16) (data : Bytes)
  | node (kind : UInt16) (children : List AttributeTree)

mutual

def AttributeTree.encode : AttributeTree → Bytes
  | .leaf kind data => Attribute.encode kind data
  | .node kind children => Attribute.encodeNested kind (AttributeTree.encodeAll children)

def AttributeTree.encodeAll : List AttributeTree → Bytes
  | [] => []
  | tree :: trees => tree.encode ++ AttributeTree.encodeAll trees

end

/-- An attribute that was read. The data of a nested one has been read in its turn, down to some
depth; a fault in it is its own and not that of the attributes around it. -/
inductive AttributeOutline where
  | entry (record : Attribute) (inner : Option (Except AttributeError (List AttributeOutline)))

/-- Reads a stream and the data of its nested attributes down to `depth` further levels. -/
def AttributeOutline.parse : (depth : Nat) → Bytes → Except AttributeError (List AttributeOutline)
  | 0, stream => (Attribute.parse stream).map (·.map (.entry · none))
  | depth + 1, stream => (Attribute.parse stream).map (·.map fun record =>
      .entry record (if record.nested then some (AttributeOutline.parse depth record.data)
        else none))

/-- Attributes of a connection tracking entry. -/
inductive ConntrackKind where
  | mark
  | id
  deriving DecidableEq, Repr

def ConntrackKind.code : ConntrackKind → UInt16
  | .mark => 8
  | .id => 12

/-- The id of a connection tracking entry: that of its first id attribute, provided the whole
entry is well formed. -/
def conntrackId (entry : Bytes) : Option UInt32 :=
  match Attribute.parse entry with
  | .error _ => none
  | .ok attributes =>
    match attributes.find? (·.kind == ConntrackKind.id.code) with
    | none => none
    | some record => record.word?

end PacketDivert.Netlink
