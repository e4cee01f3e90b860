import PacketDivert.Proofs.Rules.NftablesReading
import Mathlib.Data.List.TakeWhile

namespace PacketDivert.Nftables

open Text (split)

/-- What stands on a line behind the blanks in front. -/
def unindented (line : String) : String := String.ofList (line.toList.dropWhile (· == ' '))

/-- The lines of a text on which something stands. -/
def scriptLines (text : String) : List String :=
  ((split '\n' text).map unindented).filter (· ≠ "")

/-- A text that makes one line, however far it is indented. -/
def IsLine (text : String) : Prop :=
  '\n' ∉ text.toList ∧ text.toList.head?.any (· != ' ') = true

instance (text : String) : Decidable (IsLine text) := inferInstanceAs (Decidable (_ ∧ _))

theorem scriptLines_append (text more : String) :
    scriptLines (text ++ "\n" ++ more) = scriptLines text ++ scriptLines more := by
  have broken : text ++ "\n" ++ more = text ++ String.singleton '\n' ++ more := rfl
  rw [broken, scriptLines, Text.split_append, List.map_append, List.filter_append]
  rfl

theorem scriptLines_unlines (lines : List String) (more : String) :
    scriptLines (unlines lines ++ more) = lines.flatMap scriptLines ++ scriptLines more := by
  induction lines with
  | nil => simp [unlines]
  | cons line lines inductionHypothesis =>
    have joined : unlines (line :: lines) ++ more = line ++ "\n" ++ (unlines lines ++ more) := by
      simp [unlines, String.append_assoc]
    rw [joined, scriptLines_append, inductionHypothesis, List.flatMap_cons, List.append_assoc]

theorem unindented_append {indent line : String} (blank : ∀ letter ∈ indent.toList, letter = ' ')
    (isLine : IsLine line) : unindented (indent ++ line) = line := by
  have starts := isLine.2
  rw [unindented, String.toList_append, List.dropWhile_append_of_pos fun letter member => by
    simp [blank letter member]]
  cases shape : line.toList with
  | nil => simp [shape] at starts
  | cons letter rest =>
    rw [List.dropWhile_cons_of_neg (by simpa [shape] using starts), ← shape, String.ofList_toList]

theorem scriptLines_of_isLine {indent line : String}
    (blank : ∀ letter ∈ indent.toList, letter = ' ')
    (isLine : IsLine line) : scriptLines (indent ++ line) = [line] := by
  have unbroken : '\n' ∉ (indent ++ line).toList := by
    rw [String.toList_append, List.mem_append, not_or]
    exact ⟨fun member => absurd (blank _ member) (by decide), isLine.1⟩
  have filled : line ≠ "" := by
    rintro rfl
    exact absurd isLine (by decide)
  rw [scriptLines, Text.split_of_not_mem unbroken, List.map_singleton,
    unindented_append blank isLine, List.filter_cons_of_pos (by simpa using filled),
    List.filter_nil]

theorem scriptLines_of_blank {text : String} (blank : ∀ letter ∈ text.toList, letter = ' ') :
    scriptLines text = [] := by
  have unbroken : '\n' ∉ text.toList := fun member => absurd (blank _ member) (by decide)
  have empty : unindented text = "" := by
    rw [unindented, List.dropWhile_eq_nil_iff.mpr fun letter member => by
      simp [blank letter member]]
  rw [scriptLines, Text.split_of_not_mem unbroken, List.map_singleton, empty]
  rfl

/-- Lines that are joined, each with the same indentation. -/
theorem scriptLines_intercalate {indent : String} {lines : List String}
    (blank : ∀ letter ∈ indent.toList, letter = ' ') (areLines : ∀ line ∈ lines, IsLine line) :
    scriptLines (indent ++ ("\n" ++ indent).intercalate lines) = lines := by
  induction lines with
  | nil =>
    rw [String.intercalate_nil, String.append_empty]
    exact scriptLines_of_blank blank
  | cons line lines inductionHypothesis =>
    obtain ⟨isLine, areLinesRest⟩ := List.forall_mem_cons.mp areLines
    by_cases last : lines = []
    · rw [last, String.intercalate_singleton, scriptLines_of_isLine blank isLine]
    · have joined : indent ++ ("\n" ++ indent).intercalate (line :: lines) =
          indent ++ line ++ "\n" ++ (indent ++ ("\n" ++ indent).intercalate lines) := by
        simp only [String.intercalate_cons_of_ne_nil last, String.append_assoc]
      rw [joined, scriptLines_append, scriptLines_of_isLine blank isLine,
        inductionHypothesis areLinesRest]
      rfl

/-- Where a reader stands in a script. -/
inductive Place where
  | definitions
  | table
  | chain (name : String)
  | rules (chain : ListedChain)
  | behind

/-- A reader of a script: what it has found, and where it stands. -/
structure ScriptReader where
  listing : Listing
  place : Place

/-- Reads a line. A chain starts with the hook that it is attached to. -/
def ScriptReader.read : ScriptReader → String → Option ScriptReader
  | ⟨listing, .definitions⟩, line =>
    match readDefinition line, split ' ' line with
    | some _, _ =>
      some ⟨{ listing with definitions := listing.definitions ++ [line] }, .definitions⟩
    | none, ["table", family, name, "\x7b"] => some ⟨{ listing with family, name }, .table⟩
    | none, _ => none
  | ⟨listing, .table⟩, line =>
    match split ' ' line with
    | ["chain", name, "\x7b"] => some ⟨listing, .chain name⟩
    | ["\x7d"] => some ⟨listing, .behind⟩
    | _ => none
  | ⟨listing, .chain name⟩, header =>
    (readHeader header).map fun _ => ⟨listing, .rules ⟨name, header, []⟩⟩
  | ⟨listing, .rules chain⟩, line =>
    if line = "\x7d" then some ⟨{ listing with chains := listing.chains ++ [chain] }, .table⟩
    else some ⟨listing, .rules { chain with rules := chain.rules ++ [line] }⟩
  | ⟨_, .behind⟩, _ => none

/-- The one table of a script. -/
def readScript (text : String) : Option Listing :=
  match (scriptLines text).foldlM ScriptReader.read ⟨⟨[], "", "", []⟩, .definitions⟩ with
  | some ⟨listing, .behind⟩ => some listing
  | _ => none

/-- A name that is one word of a line. -/
def IsWord (text : String) : Prop := ' ' ∉ text.toList ∧ '\n' ∉ text.toList

instance (text : String) : Decidable (IsWord text) := inferInstanceAs (Decidable (_ ∧ _))

/-- A chain of which each part stands on lines of its own. -/
structure ListedChain.Readable (chain : ListedChain) : Prop where
  name : IsWord chain.name
  header : IsLine chain.header ∧ (readHeader chain.header).isSome = true
  rules : ∀ rule ∈ chain.rules, IsLine rule ∧ rule ≠ "\x7d"

structure Listing.Readable (listing : Listing) : Prop where
  definitions : ∀ line ∈ listing.definitions, IsLine line ∧ (readDefinition line).isSome = true
  family : IsWord listing.family
  name : IsWord listing.name
  chains : ∀ chain ∈ listing.chains, chain.Readable

/-- The lines of a chain. -/
def ListedChain.lines (chain : ListedChain) : List String :=
  ("chain " ++ chain.name ++ " \x7b") :: chain.header :: chain.rules ++ ["\x7d"]

theorem IsLine.append {start rest : String} (isLine : IsLine start)
    (unbroken : '\n' ∉ rest.toList) :
    IsLine (start ++ rest) := by
  obtain ⟨startUnbroken, starts⟩ := isLine
  refine ⟨by simp [startUnbroken, unbroken], ?_⟩
  cases shape : start.toList with
  | nil => simp [shape] at starts
  | cons letter letters => simpa [String.toList_append, shape] using starts

theorem isLine_opening {chain : ListedChain} (readable : chain.Readable) :
    IsLine ("chain " ++ chain.name ++ " \x7b") := by
  rw [String.append_assoc]
  exact IsLine.append (by decide) (by simpa using readable.name.2)

theorem scriptLines_chain {chain : ListedChain} (readable : chain.Readable) (more : String) :
    scriptLines (chain.text ++ more) = chain.lines ++ scriptLines more := by
  have two : ∀ letter ∈ "  ".toList, letter = ' ' := by simp
  have four : ∀ letter ∈ "    ".toList, letter = ' ' := by simp
  have opening : scriptLines ("  chain " ++ chain.name ++ " \x7b") =
      ["chain " ++ chain.name ++ " \x7b"] := by
    rw [← scriptLines_of_isLine two (isLine_opening readable)]
    simp only [← String.append_assoc]
    rfl
  have header := scriptLines_of_isLine four readable.header.1
  have rules : scriptLines ("    " ++ "\n    ".intercalate chain.rules) = chain.rules :=
    scriptLines_intercalate four fun rule member => (readable.rules rule member).1
  rw [ListedChain.text, scriptLines_unlines]
  simp only [List.flatMap_cons, List.flatMap_nil, opening, header, rules]
  rfl

theorem scriptLines_chains {chains : List ListedChain}
    (readable : ∀ chain ∈ chains, chain.Readable) (more : String) :
    scriptLines (String.join (chains.map ListedChain.text) ++ more) =
      chains.flatMap ListedChain.lines ++ scriptLines more := by
  induction chains with
  | nil => simp
  | cons chain chains inductionHypothesis =>
    obtain ⟨readableHead, readableRest⟩ := List.forall_mem_cons.mp readable
    rw [List.map_cons, String.join_cons, String.append_assoc, scriptLines_chain readableHead,
      inductionHypothesis readableRest, List.flatMap_cons, List.append_assoc]

theorem scriptLines_text {listing : Listing} (readable : listing.Readable) :
    scriptLines listing.text = listing.definitions ++
      ("table " ++ listing.family ++ " " ++ listing.name ++ " \x7b") ::
      listing.chains.flatMap ListedChain.lines ++ ["\x7d"] := by
  have unindented : ∀ letter ∈ "".toList, letter = ' ' := by simp
  have opening : scriptLines ("table " ++ listing.family ++ " " ++ listing.name ++ " \x7b") =
      ["table " ++ listing.family ++ " " ++ listing.name ++ " \x7b"] := by
    have isLine : IsLine ("table " ++ (listing.family ++ (" " ++ (listing.name ++ " \x7b")))) :=
      IsLine.append (by decide) (by simpa using ⟨readable.family.2, readable.name.2⟩)
    simpa [String.append_assoc] using scriptLines_of_isLine unindented isLine
  have definitions : scriptLines ("\n".intercalate listing.definitions) = listing.definitions := by
    simpa using scriptLines_intercalate unindented
      fun line member => (readable.definitions line member).1
  rw [Listing.text, String.append_assoc, scriptLines_unlines, scriptLines_chains readable.chains]
  have closing : scriptLines (unlines ["", "\x7d"]) = ["\x7d"] := by decide +kernel
  simp only [List.flatMap_cons, List.flatMap_nil, opening, definitions, closing]
  simp [scriptLines_of_blank unindented]

theorem split_opening (keyword : String) {name : String} (isWord : IsWord name) :
    split ' ' (keyword ++ " " ++ name ++ " \x7b") = split ' ' keyword ++ [name, "\x7b"] := by
  have shape : keyword ++ " " ++ name ++ " \x7b" =
      keyword ++ String.singleton ' ' ++ (name ++ String.singleton ' ' ++ "\x7b") := by
    simp only [String.append_assoc]
    rfl
  rw [shape, Text.split_append, Text.split_append, Text.split_of_not_mem isWord.1]
  rfl

/-- From the lines of a chain a reader that stands in a table gains the chain. -/
theorem read_chain {chain : ListedChain} (readable : chain.Readable) (listing : Listing) :
    chain.lines.foldlM ScriptReader.read ⟨listing, .table⟩ =
      some ⟨{ listing with chains := listing.chains ++ [chain] }, .table⟩ := by
  have rules (found : ListedChain) (rules : List String) (plain : ∀ rule ∈ rules, rule ≠ "\x7d") :
      rules.foldlM ScriptReader.read ⟨listing, .rules found⟩ =
        some ⟨listing, .rules { found with rules := found.rules ++ rules }⟩ := by
    induction rules generalizing found with
    | nil => simp
    | cons rule rules inductionHypothesis =>
      obtain ⟨plainRule, plainRest⟩ := List.forall_mem_cons.mp plain
      simp only [List.foldlM_cons, ScriptReader.read, if_neg plainRule]
      simpa using inductionHypothesis { found with rules := found.rules ++ [rule] } plainRest
  obtain ⟨hook, attached⟩ := Option.isSome_iff_exists.mp readable.header.2
  have opening : split ' ' ("chain " ++ chain.name ++ " \x7b") = ["chain", chain.name, "\x7b"] :=
    split_opening "chain" readable.name
  have found := rules ⟨chain.name, chain.header, []⟩ chain.rules
    fun rule member => (readable.rules rule member).2
  simp only [ListedChain.lines, List.cons_append, List.foldlM_cons, ScriptReader.read, opening,
    attached, Option.map_some, Option.bind_eq_bind, Option.bind_some, List.foldlM_append, found,
    List.nil_append, ↓reduceIte, List.foldlM_nil]
  rfl

theorem read_chains {chains : List ListedChain} (readable : ∀ chain ∈ chains, chain.Readable)
    (listing : Listing) :
    (chains.flatMap ListedChain.lines).foldlM ScriptReader.read ⟨listing, .table⟩ =
      some ⟨{ listing with chains := listing.chains ++ chains }, .table⟩ := by
  induction chains generalizing listing with
  | nil => simp
  | cons chain chains inductionHypothesis =>
    obtain ⟨readableHead, readableRest⟩ := List.forall_mem_cons.mp readable
    rw [List.flatMap_cons, List.foldlM_append, read_chain readableHead]
    simpa using
      inductionHypothesis readableRest { listing with chains := listing.chains ++ [chain] }

theorem read_definitions {definitions : List String}
    (readable : ∀ line ∈ definitions, (readDefinition line).isSome = true) (listing : Listing) :
    definitions.foldlM ScriptReader.read ⟨listing, .definitions⟩ =
      some ⟨{ listing with definitions := listing.definitions ++ definitions }, .definitions⟩ := by
  induction definitions generalizing listing with
  | nil => simp
  | cons line definitions inductionHypothesis =>
    obtain ⟨readableHead, readableRest⟩ := List.forall_mem_cons.mp readable
    obtain ⟨definition, defined⟩ := Option.isSome_iff_exists.mp readableHead
    simp only [List.foldlM_cons, ScriptReader.read, defined]
    simpa using inductionHypothesis readableRest
      { listing with definitions := listing.definitions ++ [line] }

/-- The text of a listing is read as that listing. -/
theorem readScript_text {listing : Listing} (readable : listing.Readable) :
    readScript listing.text = some listing := by
  have opening : split ' ' ("table " ++ listing.family ++ " " ++ listing.name ++ " \x7b") =
      ["table", listing.family, listing.name, "\x7b"] := by
    rw [split_opening ("table " ++ listing.family) readable.name]
    have shape :
        "table " ++ listing.family = "table" ++ String.singleton ' ' ++ listing.family := rfl
    rw [shape, Text.split_append, Text.split_of_not_mem readable.family.1]
    rfl
  have undefined : readDefinition
      ("table " ++ listing.family ++ " " ++ listing.name ++ " \x7b") = none := by
    simp [readDefinition, opening]
  have closing : split ' ' "\x7d" = ["\x7d"] := rfl
  have definitions := read_definitions
    (fun line member => (readable.definitions line member).2) ⟨[], "", "", []⟩
  have chains := read_chains readable.chains
  simp only [readScript, scriptLines_text readable, List.foldlM_append, definitions,
    Option.bind_eq_bind, Option.bind_some, List.foldlM_cons, ScriptReader.read, undefined, opening,
    chains, closing, List.foldlM_nil]
  rfl

theorem isLine_definition (definition : Definition) : IsLine definition.text := by
  have digits : '\n' ∉ definition.value.repr.toList := fun member =>
    absurd (Text.isDigit_of_mem_repr member) (by decide)
  have name : '\n' ∉ definition.symbol.name.toList := by cases definition.symbol <;> decide
  have shape : definition.text =
      "define " ++ (definition.symbol.name ++ ("=" ++ definition.value.repr)) := by
    simp only [← String.append_assoc]
    rfl
  rw [shape]
  refine IsLine.append (by decide) ?_
  simp only [String.toList_append, List.mem_append, name, digits, or_false, false_or]
  decide

theorem isWord_tableName (table : TableName) : IsWord table.text := by
  have letters := List.all_eq_true.mp table.admissible.2
  exact ⟨fun member => absurd (letters _ member) (by decide),
    fun member => absurd (letters _ member) (by decide)⟩

theorem readable_listed {rules : List Rule}
    (plain : ∀ rule ∈ rules, IsLine rule.text ∧ rule.text ≠ "\x7d") (hook : Hook) :
    (Chain.mk hook rules).listed.Readable where
  name := by
    have word (hook : Hook) : IsWord hook.chain := by cases hook <;> decide
    exact word hook
  header := by
    have line (hook : Hook) :
        IsLine s!"type filter hook {hook.name} priority filter; policy accept;" := by
      cases hook <;> decide
    exact ⟨line hook, by rw [readHeader_listed]; rfl⟩
  rules := List.forall_mem_map.mpr plain

theorem table_divertRuleset {policy : Policy} {params : DivertParams} {ruleset : Ruleset}
    (listed : divertRuleset policy params = .ok ruleset) : ruleset.table = params.table := by
  unfold divertRuleset at listed
  split at listed
  · cases listed
    rfl
  · cases listed

/-- Divert rules are loaded as they are listed. -/
theorem readScript_divertRuleset {policy : Policy} {params : DivertParams} {ruleset : Ruleset}
    (listed : divertRuleset policy params = .ok ruleset) :
    readScript ruleset.listing.text = some ruleset.listing := by
  obtain ⟨_, definitions, chains⟩ := divertRuleset_eq_ok listed
  have plain : ∀ reset, ∀ rule ∈ divertRules reset, IsLine rule.text ∧ rule.text ≠ "\x7d" := by
    decide +kernel
  have family : IsWord family := by decide
  refine readScript_text ⟨?_, family, isWord_tableName ruleset.table, ?_⟩
  · refine List.forall_mem_map.mpr fun definition member => ?_
    exact ⟨isLine_definition definition, by rw [readDefinition_text]; rfl⟩
  · rw [Ruleset.listing, chains]
    refine List.forall_mem_map.mpr (List.forall_mem_map.mpr fun hook _ => ?_)
    exact readable_listed (plain policy.reset) hook

end PacketDivert.Nftables
