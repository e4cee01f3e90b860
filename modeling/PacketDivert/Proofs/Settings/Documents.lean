import PacketDivert.Proofs.Settings.Assignments

/-! Documents are read as the values that they give to fields: an object by the names of its
members, an array by its order. White space has no part in it. -/

namespace PacketDivert.Settings

open Json (Element Gap Member Piece meaning?)

namespace Field

/-- The field that a key names. -/
def ofKey? (key : List Piece) : Option Field :=
  (meaning? key).bind fun letters => ofName? (String.ofList letters)

theorem ofName?_eq_some_iff {text : String} {field : Field} :
    ofName? text = some field ↔ field.name = text := by
  constructor
  · intro found
    unfold ofName? at found
    have named := List.find?_some found
    exact eq_of_beq named
  · rintro rfl
    exact ofName?_name field

theorem ofKey?_eq_some_iff {key : List Piece} {field : Field} :
    ofKey? key = some field ↔ meaning? key = some field.name.toList := by
  unfold ofKey?
  cases meaning? key with
  | none => simp
  | some letters =>
    rw [Option.bind_some, ofName?_eq_some_iff, Option.some.injEq]
    exact ⟨fun same => by rw [same, String.toList_ofList],
      fun same => by rw [same, String.ofList_toList]⟩

theorem name_injective : Function.Injective fun field : Field => field.name.toList := by
  intro field other same
  have names : ofName? field.name = ofName? other.name :=
    congrArg ofName? (String.toList_inj.mp same)
  rw [ofName?_name, ofName?_name] at names
  exact Option.some.inj names

theorem all_nodup : all.Nodup := by decide

theorem mem_all (field : Field) : field ∈ all := by cases field <;> decide

end Field

theorem toOption_eq_some_iff {α : Type} {read : Except DocumentFault α} {value : α} :
    read.toOption = some value ↔ read = .ok value := by
  cases read <;> simp [Except.toOption]

theorem toOption_eq_none_iff {α : Type} {read : Except DocumentFault α} :
    read.toOption = none ↔ ∃ fault, read = .error fault := by
  cases read <;> simp [Except.toOption]

/-- What was read was refused, or it is as expected. -/
theorem read_cases {α β : Type} {read : Except DocumentFault α} {found? : Option β} {result : β → α}
    (expected : read.toOption = found?.map result) :
    (∃ fault, found? = none ∧ read = .error fault) ∨
      ∃ found, found? = some found ∧ read = .ok (result found) := by
  cases found? with
  | none =>
    obtain ⟨fault, refused⟩ := toOption_eq_none_iff.mp expected
    exact .inl ⟨fault, rfl, refused⟩
  | some found => exact .inr ⟨found, rfl, toOption_eq_some_iff.mp expected⟩

/-! What ends a value. -/

theorem Ends.mark {letter : Char} (mark : letter ∈ [',', ']', '\x7d', ' ', '\t', '\n', '\r'])
    (rest : List Char) : Ends (letter :: rest) := by
  intro first same
  obtain rfl : letter = first := Option.some.inj same
  simp only [List.mem_cons, List.not_mem_nil, or_false] at mark
  rcases mark with rfl | rfl | rfl | rfl | rfl | rfl | rfl <;> decide

theorem Ends.gap {rest : List Char} (ends : Ends rest) (gap : Gap) : Ends (gap.text ++ rest) := by
  match gap with
  | [] => exact ends
  | blank :: gap => cases blank <;> exact .mark (by decide) _

/-- What is read behind a value depends on the value only by what it is taken for. -/
theorem Field.scan_then (field : Field) (settings : Settings) (gap : Gap) (value : Json)
    {rest : List Char} (ends : Ends rest) (next : Settings → List Char → Scanned Settings) :
    Except.toOption (match field.scan settings (gap.text ++ (value.text ++ rest)) with
      | .error fault => .error fault
      | .ok (settings, rest) => next settings rest) =
    (field.content? value).bind fun content =>
      (next (field.put content settings) rest).toOption := by
  obtain ⟨fault, refused, read⟩ | ⟨content, taken, read⟩ :=
    read_cases (field.scan_text settings gap value ends)
  · rw [refused, read]
    rfl
  · rw [taken, read]
    rfl

/-! Members of an object. -/

section Members

variable {missing : List Field} {key : List Piece}

theorem scanName_of_some {field : Field} (named : Field.ofKey? key = some field)
    (missed : field ∈ missing) (gap : Gap) (rest : List Char) :
    scanName missing (key.flatMap Piece.text ++ '"' :: (gap.text ++ ':' :: rest)) =
      .ok (⟨field, missed⟩, rest) := by
  obtain ⟨letters, meant, found⟩ := Option.bind_eq_some_iff.mp named
  have read := scanString_text key (gap.text ++ ':' :: rest)
  rw [meant, Option.map_some, toOption_eq_some_iff] at read
  have colon : skipSpace (gap.text ++ ':' :: rest) = ':' :: rest := by
    rw [skipSpace_gap, skipSpace_of_not_space (by decide)]
  unfold scanName
  simp only [read, found, missed, ↓reduceDIte, colon]

/-- A name is refused that is no field's, or that of a field which has its value already. -/
theorem scanName_of_none (none : (Field.ofKey? key).filter (· ∈ missing) = none)
    (rest : List Char) :
    (scanName missing (key.flatMap Piece.text ++ '"' :: rest)).toOption = .none := by
  unfold scanName
  obtain ⟨fault, -, read⟩ | ⟨letters, meant, read⟩ := read_cases (scanString_text key rest)
  · rw [read]
    rfl
  · rw [read]
    dsimp only
    cases found : Field.ofName? (String.ofList letters) with
    | none => rfl
    | some field =>
      rw [Field.ofKey?, meant, Option.bind_some, found, Option.filter_some] at none
      have given : field ∉ missing := by simpa using none
      dsimp only
      rw [dif_neg given]
      rfl

end Members

/-- A member, of which the opening quote was read, and the members behind it. -/
def scanMember (missing : List Field) (settings : Settings) (text : List Char) :
    Scanned Settings :=
  match scanName missing text with
  | .error fault => .error fault
  | .ok (⟨field, _⟩, rest) =>
    match field.scan settings rest with
    | .error fault => .error fault
    | .ok (settings, rest) => scanMembers false (missing.erase field) settings rest

/-- The member behind a comma. -/
def scanNextMember (missing : List Field) (settings : Settings) (text : List Char) :
    Scanned Settings :=
  match skipSpace text with
  | [] => .error .incomplete
  | '"' :: rest => scanMember missing settings rest
  | _ :: _ => .error .malformed

section Members

variable (first : Bool) (missing : List Field) (settings : Settings) (text : List Char)
  {rest : List Char}

theorem scanMembers_end (gap : Gap) (rest : List Char) :
    scanMembers first missing settings (gap.text ++ '\x7d' :: rest) = .ok (settings, rest) := by
  have last : skipSpace (gap.text ++ '\x7d' :: rest) = '\x7d' :: rest := by
    rw [skipSpace_gap, skipSpace_of_not_space (by decide)]
  rw [scanMembers, last]
  rfl

theorem scanMembers_first (quoted : skipSpace text = '"' :: rest) :
    scanMembers true missing settings text = scanMember missing settings rest := by
  rw [scanMembers, quoted]
  rfl

theorem scanMembers_next {more : List Char} (separated : skipSpace text = ',' :: more)
    (quoted : skipSpace more = '"' :: rest) :
    scanMembers false missing settings text = scanMember missing settings rest := by
  rw [scanMembers, separated]
  change scanNextMember missing settings more = _
  rw [scanNextMember, quoted]
  rfl

end Members

namespace Json.Member

/-- What a member gives, and to which field. -/
def entry (member : Member) : Entry := (Field.ofKey? member.key, member.value)

/-- The gap that ends a member. -/
def gapAfter : Member → Gap
  | .mk _ _ _ _ _ after => after

/-- A member behind its opening quote, with what follows it. -/
def unquoted : Member → List Char → List Char
  | .mk _ key afterKey beforeValue value after, rest =>
    key.flatMap Piece.text ++ '"' ::
      (afterKey.text ++ ':' :: (beforeValue.text ++ (value.text ++ (after.text ++ rest))))

theorem skipSpace_text (gap : Gap) (member : Member) (rest : List Char) :
    skipSpace (gap.text ++ (member.text ++ rest)) = '"' :: member.unquoted rest := by
  obtain ⟨before, key, afterKey, beforeValue, value, after⟩ := member
  have begins : (Member.mk before key afterKey beforeValue value after).text ++ rest =
      before.text ++ '"' ::
        (Member.mk before key afterKey beforeValue value after).unquoted rest := by
    simp [Member.text, unquoted, literal]
  rw [begins, skipSpace_gap, skipSpace_gap, skipSpace_of_not_space (by decide)]

end Json.Member

/-- A member gives its field its value, if the field is missing and takes the value. -/
theorem scanMember_text (missing : List Field) (settings : Settings) (member : Member)
    {rest : List Char} (ends : Ends rest) :
    (scanMember missing settings (member.unquoted rest)).toOption =
      (member.entry.1.filter (· ∈ missing)).bind fun field =>
        (field.content? member.entry.2).bind fun content =>
          (scanMembers false (missing.erase field) (field.put content settings)
            (member.gapAfter.text ++ rest)).toOption := by
  obtain ⟨before, key, afterKey, beforeValue, value, after⟩ := member
  unfold scanMember Member.unquoted
  change _ = ((Field.ofKey? key).filter (· ∈ missing)).bind fun field =>
    (field.content? value).bind _
  cases found : (Field.ofKey? key).filter (· ∈ missing) with
  | none =>
    obtain ⟨fault, refused⟩ := toOption_eq_none_iff.mp (scanName_of_none found _)
    rw [refused]
    rfl
  | some field =>
    obtain ⟨named, missed⟩ := Option.filter_eq_some_iff.mp found
    rw [scanName_of_some named (of_decide_eq_true missed), Option.bind_some]
    exact field.scan_then settings beforeValue value (ends.gap after)
      (scanMembers false (missing.erase field))

theorem Ends.moreMembers (members : List Member) (rest : List Char) :
    Ends (Member.moreText members ++ '\x7d' :: rest) := by
  cases members <;> rw [Member.moreText] <;> exact .mark (by decide) _

/-- A member and the members behind it give their values in turn. -/
theorem scanMember_members {member : Member} {members : List Member} {rest : List Char}
    (later : ∀ (missing : List Field) (settings : Settings) (gap : Gap),
      (scanMembers false missing settings
          (gap.text ++ (Member.moreText members ++ '\x7d' :: rest))).toOption =
        (assign missing settings (members.map Member.entry)).map (·, rest))
    (missing : List Field) (settings : Settings) :
    (scanMember missing settings
        (member.unquoted (Member.moreText members ++ '\x7d' :: rest))).toOption =
      (assign missing settings ((member :: members).map Member.entry)).map (·, rest) := by
  rw [scanMember_text _ _ _ (.moreMembers members rest), List.map_cons, assign]
  simp only [later, Option.map_bind, Function.comp_def]

theorem scanMembers_moreText (members : List Member) (rest : List Char) (missing : List Field)
    (settings : Settings) (gap : Gap) :
    (scanMembers false missing settings
        (gap.text ++ (Member.moreText members ++ '\x7d' :: rest))).toOption =
      (assign missing settings (members.map Member.entry)).map (·, rest) := by
  induction members generalizing missing settings gap with
  | nil =>
    rw [Member.moreText, List.nil_append, scanMembers_end]
    rfl
  | cons member members inductionHypothesis =>
    have separated : skipSpace (gap.text ++
          (Member.moreText (member :: members) ++ '\x7d' :: rest)) =
        ',' :: (member.text ++ (Member.moreText members ++ '\x7d' :: rest)) := by
      rw [skipSpace_gap, Member.moreText, List.append_assoc, List.cons_append]
      exact skipSpace_of_not_space (by decide) _
    rw [scanMembers_next _ _ _ separated (Member.skipSpace_text [] member _)]
    exact scanMember_members inductionHypothesis missing settings

theorem scanMembers_allText (members : List Member) (rest : List Char) (missing : List Field)
    (settings : Settings) (gap : Gap) :
    (scanMembers true missing settings
        (gap.text ++ (Member.allText members ++ '\x7d' :: rest))).toOption =
      (assign missing settings (members.map Member.entry)).map (·, rest) := by
  cases members with
  | nil =>
    rw [Member.allText, List.nil_append, scanMembers_end]
    rfl
  | cons member members =>
    rw [Member.allText, List.append_assoc,
      scanMembers_first _ _ _ (Member.skipSpace_text gap member _)]
    exact scanMember_members (scanMembers_moreText members rest) missing settings

/-! Elements of an array. -/

/-- An element and the elements behind it. -/
def scanElement (field : Field) (fields : List Field) (settings : Settings) (text : List Char) :
    Scanned Settings :=
  match field.scan settings text with
  | .error fault => .error fault
  | .ok (settings, rest) => scanElements false fields settings rest

/-- The element behind a comma. -/
def scanNextElement (field : Field) (fields : List Field) (settings : Settings)
    (text : List Char) : Scanned Settings :=
  match skipSpace text with
  | [] => .error .incomplete
  | ']' :: _ => .error .malformed
  | rest => scanElement field fields settings rest

section Elements

variable (field : Field) (fields : List Field) (settings : Settings) (text : List Char)
  {rest : List Char}

theorem scanElements_end (first : Bool) (gap : Gap) (rest : List Char) :
    scanElements first fields settings (gap.text ++ ']' :: rest) = .ok (settings, rest) := by
  have last : skipSpace (gap.text ++ ']' :: rest) = ']' :: rest := by
    rw [skipSpace_gap, skipSpace_of_not_space (by decide)]
  cases fields <;> rw [scanElements, last] <;> rfl

theorem scanElements_first (value : Json) (begins : skipSpace text = value.text ++ rest) :
    scanElements true (field :: fields) settings text =
      scanElement field fields settings (value.text ++ rest) := by
  obtain ⟨letter, more, opening, -, opens⟩ := value.text_opens
  rw [scanElements, begins, opening, List.cons_append]
  split
  · exact absurd ‹letter :: (more ++ rest) = []› (List.cons_ne_nil _ _)
  · rename_i closes
    exact absurd (List.cons.inj closes).1 opens
  · rename_i same
    rw [← same]
    rfl

theorem scanElements_next (value : Json) {more : List Char}
    (separated : skipSpace text = ',' :: more) (begins : skipSpace more = value.text ++ rest) :
    scanElements false (field :: fields) settings text =
      scanElement field fields settings (value.text ++ rest) := by
  obtain ⟨letter, after, opening, -, opens⟩ := value.text_opens
  rw [scanElements, separated]
  change scanNextElement field fields settings more = _
  rw [scanNextElement, begins, opening, List.cons_append]
  split
  · exact absurd ‹letter :: (after ++ rest) = []› (List.cons_ne_nil _ _)
  · rename_i closes
    exact absurd (List.cons.inj closes).1 opens
  · rfl

end Elements

namespace Json.Element

/-- The gap that ends an element. -/
def gapAfter : Element → Gap
  | .mk _ _ after => after

theorem skipSpace_text (gap : Gap) (element : Element) (rest : List Char) :
    skipSpace (gap.text ++ (element.text ++ rest)) =
      element.value.text ++ (element.gapAfter.text ++ rest) := by
  obtain ⟨before, value, after⟩ := element
  simp only [Element.text, List.append_assoc, skipSpace_gap]
  exact Settings.skipSpace_text value _

/-- Values for the first few fields. -/
def entries (fields : List Field) (elements : List Element) : List Entry :=
  List.zipWith (fun field element => (some field, element.value)) fields elements

end Json.Element

theorem assign_entries_cons (field : Field) (fields : List Field) (settings : Settings)
    (element : Element) (elements : List Element) :
    assign (field :: fields) settings (Element.entries (field :: fields) (element :: elements)) =
      (field.content? element.value).bind fun content =>
        assign fields (field.put content settings) (Element.entries fields elements) := by
  have missed : field ∈ field :: fields := List.mem_cons_self
  rw [Element.entries, List.zipWith_cons_cons, assign, Option.filter_some,
    if_pos (decide_eq_true missed), Option.bind_some, List.erase_cons_head]
  rfl

/-- An element gives the next field its value, if it takes the value. -/
theorem scanElement_text (field : Field) (fields : List Field) (settings : Settings)
    (element : Element) {rest : List Char} (ends : Ends rest) :
    (scanElement field fields settings
        (element.value.text ++ (element.gapAfter.text ++ rest))).toOption =
      (field.content? element.value).bind fun content =>
        (scanElements false fields (field.put content settings)
          (element.gapAfter.text ++ rest)).toOption :=
  field.scan_then settings [] element.value (ends.gap element.gapAfter)
    (scanElements false fields)

theorem Ends.moreElements (elements : List Element) (rest : List Char) :
    Ends (Element.moreText elements ++ ']' :: rest) := by
  cases elements <;> rw [Element.moreText] <;> exact .mark (by decide) _

/-- An element and the elements behind it give their values in turn. -/
theorem scanElement_elements {fields : List Field} {elements : List Element} {rest : List Char}
    (later : ∀ settings gap,
      (scanElements false fields settings
          (Gap.text gap ++ (Element.moreText elements ++ ']' :: rest))).toOption =
        (assign fields settings (Element.entries fields elements)).map (·, rest))
    (field : Field) (settings : Settings) (element : Element) :
    (scanElement field fields settings (element.value.text ++
        (element.gapAfter.text ++ (Element.moreText elements ++ ']' :: rest)))).toOption =
      (assign (field :: fields) settings
        (Element.entries (field :: fields) (element :: elements))).map (·, rest) := by
  rw [scanElement_text _ _ _ _ (.moreElements elements rest), assign_entries_cons]
  simp only [later, Option.map_bind, Function.comp_def]

theorem scanElements_moreText (elements : List Element) (rest : List Char) (fields : List Field)
    (few : elements.length ≤ fields.length) (settings : Settings) (gap : Gap) :
    (scanElements false fields settings
        (gap.text ++ (Element.moreText elements ++ ']' :: rest))).toOption =
      (assign fields settings (Element.entries fields elements)).map (·, rest) := by
  induction elements generalizing fields settings gap with
  | nil =>
    rw [Element.moreText, List.nil_append, scanElements_end, Element.entries,
      List.zipWith_nil_right]
    rfl
  | cons element elements inductionHypothesis =>
    obtain ⟨field, fields, rfl⟩ := List.exists_cons_of_length_pos (Nat.lt_of_lt_of_le (by simp) few)
    have separated : skipSpace (gap.text ++
          (Element.moreText (element :: elements) ++ ']' :: rest)) =
        ',' :: (element.text ++ (Element.moreText elements ++ ']' :: rest)) := by
      rw [skipSpace_gap, Element.moreText, List.append_assoc, List.cons_append]
      exact skipSpace_of_not_space (by decide) _
    rw [scanElements_next _ _ _ _ _ separated (Element.skipSpace_text [] element _)]
    exact scanElement_elements (inductionHypothesis fields (Nat.le_of_succ_le_succ few))
      field settings element

theorem scanElements_allText (elements : List Element) (rest : List Char) (fields : List Field)
    (few : elements.length ≤ fields.length) (settings : Settings) (gap : Gap) :
    (scanElements true fields settings
        (gap.text ++ (Element.allText elements ++ ']' :: rest))).toOption =
      (assign fields settings (Element.entries fields elements)).map (·, rest) := by
  cases elements with
  | nil =>
    rw [Element.allText, List.nil_append, scanElements_end, Element.entries,
      List.zipWith_nil_right]
    rfl
  | cons element elements =>
    obtain ⟨field, fields, rfl⟩ := List.exists_cons_of_length_pos (Nat.lt_of_lt_of_le (by simp) few)
    have later := scanElements_moreText elements rest fields (Nat.le_of_succ_le_succ few)
    rw [Element.allText, List.append_assoc,
      scanElements_first _ _ _ _ _ (Element.skipSpace_text gap element _)]
    exact scanElement_elements later field settings element

/-! Whole documents. -/

/-- What follows a value of a document is space, which is passed over. -/
theorem parse_of_scanDocument {text : List Char} {settings? : Option Settings} (after : Gap)
    (scanned : (scanDocument text).toOption = settings?.map (·, after.text)) :
    (parse text).toOption = settings? := by
  have blank : skipSpace after.text = [] := by
    have skipped := skipSpace_gap after []
    rwa [List.append_nil] at skipped
  unfold parse
  obtain ⟨fault, refused, read⟩ | ⟨settings, found, read⟩ := read_cases scanned
  · rw [refused, read]
    rfl
  · rw [found, read]
    dsimp only
    rw [blank]
    rfl

namespace ObjectText

/-- The values of an object, with the fields that its keys name. -/
def entries (document : ObjectText) : List Entry := document.members.map Member.entry

theorem parse_text (document : ObjectText) :
    (parse document.text).toOption = assign Field.all {} document.entries := by
  obtain ⟨before, gap, members, after⟩ := document
  refine parse_of_scanDocument after ?_
  have opens : skipSpace (ObjectText.text ⟨before, gap, members, after⟩) =
      '\x7b' :: (gap.text ++ (Member.allText members ++ '\x7d' :: after.text)) := by
    rw [ObjectText.text, List.append_assoc, skipSpace_gap, Json.text]
    simp only [List.append_assoc, List.cons_append, List.nil_append]
    exact skipSpace_of_not_space (by decide) _
  unfold scanDocument
  rw [opens]
  exact scanMembers_allText members after.text Field.all {} gap

theorem parse_eq_ok_iff {document : ObjectText} {settings : Settings} :
    parse document.text = .ok settings ↔ Assigned Field.all {} document.entries settings := by
  rw [← assign_eq_some_iff Field.all_nodup, ← parse_text, toOption_eq_some_iff]

end ObjectText

namespace ArrayText

/-- The values of an array, with the fields in their order. -/
def entries (document : ArrayText) : List Entry := Element.entries Field.all document.elements

theorem parse_text (document : ArrayText) (few : document.elements.length ≤ Field.all.length) :
    (parse document.text).toOption = assign Field.all {} document.entries := by
  obtain ⟨before, gap, elements, after⟩ := document
  refine parse_of_scanDocument after ?_
  have opens : skipSpace (ArrayText.text ⟨before, gap, elements, after⟩) =
      '[' :: (gap.text ++ (Element.allText elements ++ ']' :: after.text)) := by
    rw [ArrayText.text, List.append_assoc, skipSpace_gap, Json.text]
    simp only [List.append_assoc, List.cons_append, List.nil_append]
    exact skipSpace_of_not_space (by decide) _
  unfold scanDocument
  rw [opens]
  exact scanElements_allText elements after.text Field.all few {} gap

end ArrayText

end PacketDivert.Settings
