namespace PacketDivert.Text

/-- The characters with the Unicode property White_Space. -/
def isBlank (letter : Char) : Bool :=
  let code := letter.toNat
  (0x09 ≤ code && code ≤ 0x0D) || code == 0x20 || code == 0x85 || code == 0xA0 ||
    code == 0x1680 || (0x2000 ≤ code && code ≤ 0x200A) || code == 0x2028 || code == 0x2029 ||
    code == 0x202F || code == 0x205F || code == 0x3000

/-- A text without the white space at its two ends. -/
def trim (text : List Char) : List Char :=
  ((text.dropWhile isBlank).reverse.dropWhile isBlank).reverse

/-- Lower case as far as an ASCII phrase can see it. Besides the ASCII capitals only the Kelvin
sign and the capital I with a dot have an ASCII letter in their lower case. -/
def lower (letter : Char) : List Char :=
  if letter.toNat = 0x212A then ['k']
  else if letter.toNat = 0x130 then ['i', Char.ofNat 0x307]
  else [letter.toLower]

def contains (phrase : List Char) : (text : List Char) → Bool
  | [] => phrase.isEmpty
  | letter :: text => phrase.isPrefixOf (letter :: text) || contains phrase text

/-- Whether a text mentions a lower-case ASCII phrase, in either case. -/
def mentions (text phrase : String) : Bool :=
  contains phrase.toList (text.toList.flatMap lower)

/-- The pieces of a text between separators: one more than there are separators. -/
def pieces (separator : Char) : List Char → List (List Char)
  | [] => [[]]
  | letter :: text =>
    if letter = separator then [] :: pieces separator text
    else
      match pieces separator text with
      | [] => [[letter]]
      | piece :: others => (letter :: piece) :: others

/-- The same for strings. -/
def split (separator : Char) (text : String) : List String :=
  (pieces separator text.toList).map String.ofList

theorem pieces_ne_nil (separator : Char) (text : List Char) : pieces separator text ≠ [] := by
  cases text with
  | nil => simp [pieces]
  | cons letter text =>
    unfold pieces
    split
    · simp
    · split <;> simp

theorem pieces_append (separator : Char) (text more : List Char) :
    pieces separator (text ++ separator :: more) =
      pieces separator text ++ pieces separator more := by
  induction text with
  | nil => simp [pieces]
  | cons letter text inductionHypothesis =>
    simp only [List.cons_append, pieces, inductionHypothesis]
    split
    · simp
    · cases first : pieces separator text with
      | nil => exact absurd first (pieces_ne_nil separator text)
      | cons piece others => simp

end PacketDivert.Text
