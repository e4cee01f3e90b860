import PacketDivert.Proofs.Firewall.TableStore
import PacketDivert.Proofs.Rules.NftablesTokens

namespace PacketDivert

open Nftables (SpellsWord Token TokenKind commandLine isOption tableLine? tokens)

namespace TableName

/-- A text that starts like an identifier and goes on with letters of a table name. -/
structure IsIdentifier (text : String) : Prop where
  starts : (text.toList.head?.any fun letter => letter.isAlpha || letter == '_') = true
  admitted : text.toList.all admits = true

theorem exists_cons (name : TableName) :
    ∃ letter letters, name.text.toList = letter :: letters ∧ admits letter = true := by
  obtain ⟨nonempty, admitted⟩ := name.admissible
  cases shape : name.text.toList with
  | nil => exact absurd (String.toList_eq_nil_iff.mp shape) nonempty
  | cons letter letters =>
    rw [shape, List.all_cons, Bool.and_eq_true] at admitted
    exact ⟨letter, letters, rfl, admitted.1⟩

/-- Of the letters of a name, those that a word starts with are the ones of an identifier. -/
theorem beginning_eq_word_iff {letter : Char} (admitted : admits letter = true) :
    TokenKind.beginning letter = .word ↔ (letter.isAlpha || letter == '_') = true := by
  have notDot : letter ≠ '.' := by
    rintro rfl
    exact absurd admitted (by decide)
  rw [TokenKind.beginning, beq_eq_false_iff_ne.mpr notDot, Bool.or_false]
  split
  · rename_i starts
    exact iff_of_true rfl starts
  · rename_i other
    refine iff_of_false ?_ other
    split <;> decide

theorem continues_of_admits {letter : Char} (admitted : admits letter = true) :
    TokenKind.word.continues letter = true := by
  simp only [admits, Bool.or_eq_true] at admitted
  simp only [TokenKind.continues, Bool.or_eq_true]
  exact .inl (.inl admitted)

theorem spellsWord_iff (name : TableName) : SpellsWord name.text ↔ IsIdentifier name.text := by
  obtain ⟨letter, letters, shape, admitted⟩ := name.exists_cons
  have kinds := beginning_eq_word_iff admitted
  constructor
  · rintro ⟨starts, _⟩
    rw [shape] at starts
    refine ⟨?_, name.admissible.2⟩
    rw [shape]
    exact kinds.mp (Option.some.inj starts)
  · rintro ⟨starts, all⟩
    rw [shape] at starts
    refine ⟨?_, List.all_eq_true.mpr fun letter member => ?_⟩
    · rw [shape]
      exact congrArg some (kinds.mpr starts)
    · exact continues_of_admits (List.all_eq_true.mp all letter member)

/-- A name is taken for a token of the kind that its first letter starts. -/
theorem exists_tokens {name : TableName} {letter : Char} {letters : List Char}
    (shape : name.text.toList = letter :: letters) (more : String) :
    ∃ text rest, tokens (name.text ++ more) = ⟨.beginning letter, text⟩ :: rest := by
  have admitted : admits letter = true :=
    List.all_eq_true.mp name.admissible.2 letter (by rw [shape]; exact List.mem_cons_self)
  have begun : Token.begin? letter = some ⟨.beginning letter, String.singleton letter⟩ := by
    refine if_neg ?_
    rintro (rfl | rfl) <;> exact absurd admitted (by decide)
  rw [tokens, String.toList_append, shape, List.cons_append, Nftables.tokensBehind, begun]
  exact Nftables.exists_tokensBehind _ _

theorem exists_cons_of_not_isIdentifier {name : TableName} (other : ¬IsIdentifier name.text) :
    ∃ letter letters, name.text.toList = letter :: letters ∧ TokenKind.beginning letter ≠ .word ∧
      (TokenKind.beginning letter = .number ∨ letter = '-') := by
  obtain ⟨letter, letters, shape, admitted⟩ := name.exists_cons
  have notWord : ¬(letter.isAlpha || letter == '_') = true := by
    intro starts
    refine other ⟨?_, name.admissible.2⟩
    rw [shape]
    exact starts
  refine ⟨letter, letters, shape, mt (beginning_eq_word_iff admitted).mp notWord, ?_⟩
  have digitOrDash : letter.isDigit = true ∨ letter = '-' := by
    simp only [admits, Char.isAlphanum, Bool.or_eq_true, beq_iff_eq, not_or] at admitted notWord
    tauto
  rcases digitOrDash with digit | dash
  · refine .inl ?_
    have notDot : letter ≠ '.' := by
      rintro rfl
      exact absurd digit (by decide)
    rw [TokenKind.beginning, beq_eq_false_iff_ne.mpr notDot, Bool.or_false, if_neg notWord,
      if_pos digit]
  · exact .inr dash

/-- What a name is misread as: the start of a number, or an option. -/
theorem not_isIdentifier_iff (name : TableName) :
    ¬IsIdentifier name.text ↔
      (∃ digits rest, tokens name.text = ⟨.number, digits⟩ :: rest) ∨
        isOption name.text = true := by
  constructor
  · intro other
    obtain ⟨letter, letters, shape, _, number | rfl⟩ := exists_cons_of_not_isIdentifier other
    · left
      have read := exists_tokens shape ""
      rwa [String.append_empty, number] at read
    · right
      rw [isOption, shape]
      rfl
  · rintro (⟨digits, rest, read⟩ | option) identifier
    · rw [Nftables.tokens_word (name.spellsWord_iff.mpr identifier)] at read
      exact nomatch congrArg Token.kind (List.cons.inj read).1
    · have dash : name.text.toList.head? = some '-' := by simpa [isOption] using option
      have starts := identifier.starts
      rw [dash] at starts
      exact absurd starts (by decide)

/-- Where a word would end behind a name, the name is read as one word if it is an identifier. -/
theorem tokens_append_eq_iff (name : TableName) (more : String) {behind : List Token}
    (ends : Nftables.tokensBehind (some (.word name.text)) more.toList =
      .word name.text :: behind) :
    tokens (name.text ++ more) = .word name.text :: behind ↔ IsIdentifier name.text := by
  constructor
  · intro read
    by_contra other
    obtain ⟨letter, letters, shape, notWord, _⟩ := exists_cons_of_not_isIdentifier other
    obtain ⟨text, rest, begun⟩ := exists_tokens shape more
    rw [read] at begun
    exact notWord (congrArg Token.kind (List.cons.inj begun).1).symm
  · intro identifier
    rw [Nftables.tokens_append (name.spellsWord_iff.mpr identifier), ends]

theorem tokens_eq_word_iff (name : TableName) :
    tokens name.text = [.word name.text] ↔ IsIdentifier name.text := by
  have alone := name.tokens_append_eq_iff "" rfl
  rwa [String.append_empty] at alone

end TableName

/-- A request that the tool takes to be about the table of a name. -/
def TableRequest.ReadsTable (name : String) : TableRequest → Prop
  | .delete family table =>
    commandLine (TableRequest.delete family table).arguments =
      ⟨[], [.word "delete", .word "table", .word "inet", .word name]⟩
  | .load script =>
    (tableLine? script).map tokens =
      some [.word "table", .word "inet", .word name, .symbol "\x7b"]

namespace TableName

theorem readsTable_delete_iff (name : TableName) :
    (TableRequest.delete Nftables.family name.text).ReadsTable name.text ↔
      IsIdentifier name.text := by
  rw [TableRequest.ReadsTable, TableRequest.arguments]
  -- A name that is taken for an option does not come among the tokens at all.
  by_cases option : isOption name.text = true
  · have listed : name.text ∈
        (commandLine ["delete", "table", Nftables.family, name.text]).options :=
      List.mem_filter.mpr ⟨by simp, option⟩
    refine iff_of_false ?_ (name.not_isIdentifier_iff.mpr (.inr option))
    intro read
    rw [read] at listed
    exact absurd listed List.not_mem_nil
  · have plain : ∀ argument ∈ ["delete", "table", Nftables.family, name.text],
        isOption argument = false := by
      simp only [List.forall_mem_cons]
      exact ⟨rfl, rfl, rfl, Bool.eq_false_iff.mpr option, List.forall_mem_nil _⟩
    have joined : " ".intercalate ["delete", "table", Nftables.family, name.text] =
        "delete" ++ " " ++ ("table" ++ " " ++ ("inet" ++ " " ++ name.text)) := by
      simp only [String.intercalate_cons_cons, String.intercalate_singleton, String.append_assoc]
      rfl
    rw [Nftables.commandLine_of_plain plain, joined, Nftables.tokens_word_blank (by decide),
      Nftables.tokens_word_blank (by decide), Nftables.tokens_word_blank (by decide),
      ← name.tokens_eq_word_iff]
    simp only [Nftables.CommandLine.mk.injEq, List.cons.injEq, true_and]

theorem readsTable_load_iff {policy : Policy} {params : DivertParams} {text : String}
    (written : Nftables.script policy params = .ok text) :
    (TableRequest.load text).ReadsTable params.table.text ↔ IsIdentifier params.table.text := by
  have shape : "table inet " ++ params.table.text ++ " \x7b" =
      "table" ++ " " ++ ("inet" ++ " " ++ (params.table.text ++ " \x7b")) := by
    simp only [← String.append_assoc]
    rfl
  have read : tokens ("table inet " ++ params.table.text ++ " \x7b") =
      .word "table" :: .word "inet" :: tokens (params.table.text ++ " \x7b") := by
    rw [shape, Nftables.tokens_word_blank (by decide), Nftables.tokens_word_blank (by decide)]
  have name : tokens (params.table.text ++ " \x7b") =
      [.word params.table.text, .symbol "\x7b"] ↔ IsIdentifier params.table.text :=
    params.table.tokens_append_eq_iff " \x7b" rfl
  rw [TableRequest.ReadsTable, Nftables.tableLine?_script written, Option.map_some, read, ← name]
  simp only [Option.some.injEq, List.cons.injEq, true_and]

end TableName

theorem NftBackend.Own.readsTable_iff {backend : NftBackend} {request : TableRequest}
    (own : backend.Own request) :
    request.ReadsTable backend.params.table.text ↔
      TableName.IsIdentifier backend.params.table.text := by
  cases request with
  | delete family name =>
    have same : (family, name) = (Nftables.family, backend.params.table.text) := own
    obtain ⟨rfl, rfl⟩ := Prod.mk.inj same
    exact TableName.readsTable_delete_iff backend.params.table
  | load script =>
    obtain ⟨policy, ruleset, listed, rfl⟩ := own
    have written : Nftables.script policy backend.params = .ok ruleset.listing.text := by
      rw [Nftables.script, listed]
      rfl
    exact TableName.readsTable_load_iff written

/-- The names are those that are let through. Such a name is one word to the tool exactly if it
starts with a letter or an underscore. Else it starts a number, or is taken for an option. In any
run of installs and removals every call is a deletion of the table or the load of a script, and both
read the name as that of a table under the same condition. -/
theorem table_name_read_iff (name : TableName) :
    TableName.check name.text = .ok name ∧
    (tokens name.text = [.word name.text] ↔ TableName.IsIdentifier name.text) ∧
    (¬TableName.IsIdentifier name.text ↔
      (∃ digits rest, tokens name.text = ⟨.number, digits⟩ :: rest) ∨
        isOption name.text = true) ∧
    ∀ (backend : NftBackend) (machine : Machine) (uses : List (Policy × RuleChange)),
      backend.params.table = name →
      ∃ added, (backend.afterUses uses machine).tools.calls = machine.tools.calls ++ added ∧
        ∀ call ∈ added, ∃ request, backend.request? call.invocation = some request ∧
          (request.ReadsTable name.text ↔ TableName.IsIdentifier name.text) := by
  refine ⟨name.check_text, name.tokens_eq_word_iff, name.not_isIdentifier_iff, ?_⟩
  rintro backend machine uses rfl
  have reaches : backend.Reaches machine (backend.afterUses uses machine) :=
    NftBackend.reaches_afterUses uses machine
  obtain ⟨added, reached, own⟩ := reaches
  refine ⟨added, reached, fun call member => ?_⟩
  obtain ⟨request, asked, mine⟩ := own call member
  exact ⟨request, asked, mine.readsTable_iff⟩

/-- Names that are let through: one that is a number, and one that is an option of the tool. -/
theorem accepted_names_misread :
    ∃ number option : TableName,
      TableName.check "100" = .ok number ∧ TableName.check "-f" = .ok option ∧
      ¬TableName.IsIdentifier number.text ∧ ¬TableName.IsIdentifier option.text ∧
      tokens ("table inet " ++ number.text ++ " \x7b") =
        [.word "table", .word "inet", ⟨.number, "100"⟩, .symbol "\x7b"] ∧
      commandLine ["delete", "table", "inet", option.text] =
        ⟨["-f"], [.word "delete", .word "table", .word "inet"]⟩ ∧
      ∀ name ∈ [number, option],
        let backend : NftBackend := ⟨"nft", [], { DivertParams.usual with table := name }⟩
        (backend.afterUses [(⟨false, false⟩, .install)] ⟨busyTool, []⟩).tools.calls.map
            (·.invocation.arguments) =
          [["delete", "table", "inet", name.text], ["-f", "-"]] := by
  refine ⟨⟨"100", by decide⟩, ⟨"-f", by decide⟩, rfl, rfl, ?_, ?_, by decide, by decide, ?_⟩
  · exact fun identifier => absurd identifier.starts (by decide)
  · exact fun identifier => absurd identifier.starts (by decide)
  · decide +kernel

end PacketDivert
