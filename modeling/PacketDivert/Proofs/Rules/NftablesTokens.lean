import PacketDivert.Proofs.Rules.RuleTexts

/-! The tokens that nftables takes a line for, and how it takes its arguments. The first letter of
a token tells its kind, and the token goes on as long as it can. Keywords are words here, and a
number is a run of decimal digits. -/

namespace PacketDivert

namespace Nftables

open Text (split)

inductive TokenKind where
  | word
  | number
  | symbol
  deriving DecidableEq, Repr

/-- The kind of a token that starts with a letter. -/
def TokenKind.beginning (letter : Char) : TokenKind :=
  if letter.isAlpha || letter == '_' || letter == '.' then .word
  else if letter.isDigit then .number
  else .symbol

/-- The letters that a token goes on with. -/
def TokenKind.continues : TokenKind → Char → Bool
  | .word, letter =>
    letter.isAlphanum || letter == '_' || letter == '-' || letter == '.' || letter == '/'
  | .number, letter => letter.isDigit
  | .symbol, _ => false

structure Token where
  kind : TokenKind
  text : String
  deriving DecidableEq, Repr

def Token.word (text : String) : Token := ⟨.word, text⟩

def Token.symbol (text : String) : Token := ⟨.symbol, text⟩

/-- The token that starts with a letter, unless it is a blank. -/
def Token.begin? (letter : Char) : Option Token :=
  if letter = ' ' ∨ letter = '\t' then none
  else some ⟨.beginning letter, String.singleton letter⟩

/-- The tokens of a text that stands behind the start of a token. -/
def tokensBehind : Option Token → List Char → List Token
  | underway, [] => underway.toList
  | none, letter :: rest => tokensBehind (Token.begin? letter) rest
  | some token, letter :: rest =>
    if token.kind.continues letter then
      tokensBehind (some { token with text := token.text.push letter }) rest
    else token :: tokensBehind (Token.begin? letter) rest

def tokens (line : String) : List Token := tokensBehind none line.toList

/-- A text that is one word. -/
def SpellsWord (text : String) : Prop :=
  text.toList.head?.map TokenKind.beginning = some .word ∧
    text.toList.all TokenKind.word.continues = true

instance (text : String) : Decidable (SpellsWord text) := inferInstanceAs (Decidable (_ ∧ _))

/-- A token that has started keeps its kind, whatever comes behind it. -/
theorem exists_tokensBehind (token : Token) (letters : List Char) :
    ∃ text rest, tokensBehind (some token) letters = ⟨token.kind, text⟩ :: rest := by
  induction letters generalizing token with
  | nil => exact ⟨token.text, [], rfl⟩
  | cons letter letters inductionHypothesis =>
    rw [tokensBehind]
    split
    · exact inductionHypothesis { token with text := token.text.push letter }
    · exact ⟨token.text, _, rfl⟩

theorem tokensBehind_append {kind : TokenKind} {letters : List Char}
    (continues : ∀ letter ∈ letters, kind.continues letter = true) (text : String)
    (rest : List Char) :
    tokensBehind (some ⟨kind, text⟩) (letters ++ rest) =
      tokensBehind (some ⟨kind, text ++ String.ofList letters⟩) rest := by
  -- The token grows with every letter, so its text is general.
  induction letters generalizing text with
  | nil => simp
  | cons letter letters inductionHypothesis =>
    obtain ⟨continuesLetter, continuesRest⟩ := List.forall_mem_cons.mp continues
    rw [List.cons_append, tokensBehind, if_pos continuesLetter, inductionHypothesis continuesRest]
    congr 3
    apply String.toList_injective
    simp

theorem begin?_of_beginning_word {letter : Char} (starts : TokenKind.beginning letter = .word) :
    Token.begin? letter = some ⟨.word, String.singleton letter⟩ := by
  have notBlank : ¬(letter = ' ' ∨ letter = '\t') := by
    rintro (rfl | rfl) <;> exact absurd starts (by decide)
  rw [Token.begin?, if_neg notBlank, starts]

/-- A word goes on up to its last letter. -/
theorem tokens_append {text : String} (spelled : SpellsWord text) (more : String) :
    tokens (text ++ more) = tokensBehind (some (.word text)) more.toList := by
  obtain ⟨starts, continues⟩ := spelled
  cases shape : text.toList with
  | nil => simp [shape] at starts
  | cons letter letters =>
    rw [shape] at starts continues
    obtain ⟨_, continuesRest⟩ := List.forall_mem_cons.mp (List.all_eq_true.mp continues)
    have begun := begin?_of_beginning_word (Option.some.inj starts)
    have whole : String.singleton letter ++ String.ofList letters = text := by
      apply String.toList_injective
      simp [shape]
    rw [tokens, String.toList_append, shape, List.cons_append, tokensBehind, begun,
      tokensBehind_append continuesRest, whole]
    rfl

theorem tokens_word {text : String} (spelled : SpellsWord text) : tokens text = [.word text] := by
  have alone := tokens_append spelled ""
  rw [String.append_empty] at alone
  exact alone

/-- A word ends at a blank. -/
theorem tokens_word_blank {text : String} (spelled : SpellsWord text) (more : String) :
    tokens (text ++ " " ++ more) = .word text :: tokens more := by
  rw [String.append_assoc, tokens_append spelled, String.toList_append]
  rfl

/-- An argument that is taken for an option. -/
def isOption (argument : String) : Bool := argument.toList.head? == some '-'

/-- How arguments are taken: the options among them, and the tokens of all others. -/
structure CommandLine where
  options : List String
  tokens : List Token
  deriving DecidableEq, Repr

def commandLine (arguments : List String) : CommandLine where
  options := arguments.filter isOption
  tokens := tokens (" ".intercalate (arguments.filter (!isOption ·)))

theorem commandLine_of_plain {arguments : List String}
    (plain : ∀ argument ∈ arguments, isOption argument = false) :
    commandLine arguments = ⟨[], tokens (" ".intercalate arguments)⟩ := by
  have options : arguments.filter isOption = [] :=
    List.filter_eq_nil_iff.mpr fun argument member => by simp [plain argument member]
  have others : arguments.filter (!isOption ·) = arguments :=
    List.filter_eq_self.mpr fun argument member => by simp [plain argument member]
  rw [commandLine, options, others]

/-- The line of a script that starts a table. -/
def tableLine? (script : String) : Option String :=
  (split '\n' script).find? fun line => (tokens line).head? == some (.word "table")

theorem head?_tokens {word : String} (spelled : SpellsWord word) (more : String) :
    (tokens (word ++ " " ++ more)).head? = some (.word word) := by
  rw [tokens_word_blank spelled]
  rfl

theorem tableLine?_script {policy : Policy} {params : DivertParams} {text : String}
    (written : script policy params = .ok text) :
    tableLine? text = some ("table inet " ++ params.table.text ++ " \x7b") := by
  have definition (name value : String) :
      (tokens ("define" ++ " " ++ name ++ value)).head? = some (.word "define") := by
    rw [String.append_assoc]
    exact head?_tokens (by decide) _
  have acceptMark : (tokens ("define ACCEPT_CTMARK=" ++ params.acceptMark.toNat.repr)).head? =
      some (.word "define") := definition "ACCEPT_CTMARK=" _
  have dropMark : (tokens ("define DROP_CTMARK=" ++ params.dropMark.toNat.repr)).head? =
      some (.word "define") := definition "DROP_CTMARK=" _
  have queue : (tokens ("define QUEUE_NUM=" ++ params.queue.toNat.repr)).head? =
      some (.word "define") := definition "QUEUE_NUM=" _
  have opening : (tokens ("table inet " ++ params.table.text ++ " \x7b")).head? =
      some (.word "table") := by
    have shape : "table inet " ++ params.table.text ++ " \x7b" =
        "table" ++ " " ++ ("inet " ++ params.table.text ++ " \x7b") := by
      simp only [← String.append_assoc]
      rfl
    rw [shape]
    exact head?_tokens (by decide) _
  have empty : (tokens "").head? = none := rfl
  have other : (some (Token.word "define") == some (Token.word "table")) = false := by decide
  rw [tableLine?, split_script written, divertLines]
  simp only [List.cons_append, List.nil_append, List.find?_cons, empty, acceptMark, dropMark,
    queue, opening, other]
  rfl

end Nftables

end PacketDivert
