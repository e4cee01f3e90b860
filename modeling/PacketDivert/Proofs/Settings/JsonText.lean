import PacketDivert.Settings.Document

/-! Texts of JSON, by what they are made of: white space, digits, the pieces of string literals, and
values in values. A text is given with all that its meaning does not depend on, so there is a
description for every text of the grammar. -/

namespace PacketDivert.Settings.Json

inductive Blank where
  | space
  | tab
  | lineFeed
  | carriageReturn

def Blank.letter : Blank → Char
  | .space => ' '
  | .tab => '\t'
  | .lineFeed => '\n'
  | .carriageReturn => '\r'

/-- White space, or none. -/
abbrev Gap : Type := List Blank

def Gap.text (gap : Gap) : List Char := gap.map Blank.letter

/-- At least one decimal digit. -/
structure Digits where
  first : Fin 10
  others : List (Fin 10)

namespace Digits

def all (digits : Digits) : List (Fin 10) := digits.first :: digits.others

def text (digits : Digits) : List Char := digits.all.map fun digit => Nat.digitChar digit.val

def value (digits : Digits) : Nat :=
  digits.all.foldl (fun value digit => value * 10 + digit.val) 0

end Digits

structure Exponent where
  capital : Bool
  sign : Option Bool
  digits : Digits

def Exponent.text (exponent : Exponent) : List Char :=
  (if exponent.capital then 'E' else 'e') ::
    (match exponent.sign with
      | none => []
      | some true => ['-']
      | some false => ['+']) ++ exponent.digits.text

/-- A number. Only a zero that stands alone begins with a zero. -/
structure Numeral where
  negative : Bool
  whole : Digits
  fraction : Option Digits
  exponent : Option Exponent
  unpadded : whole.first = 0 → whole.others = []

namespace Numeral

/-- What stands behind the whole part. -/
def tail (numeral : Numeral) : List Char :=
  (match numeral.fraction with
    | none => []
    | some digits => '.' :: digits.text) ++
  (match numeral.exponent with
    | none => []
    | some exponent => exponent.text)

def text (numeral : Numeral) : List Char :=
  (if numeral.negative then ['-'] else []) ++ numeral.whole.text ++ numeral.tail

/-- The value of an unsigned integer: a number without a sign, a fraction or an exponent. -/
def natural? (numeral : Numeral) : Option Nat :=
  match numeral.negative, numeral.fraction, numeral.exponent with
  | false, none, none => some numeral.whole.value
  | _, _, _ => none

end Numeral

/-- Characters that may be written as a backslash and a letter. -/
inductive Escape where
  | quote
  | backslash
  | slash
  | backspace
  | formFeed
  | lineFeed
  | carriageReturn
  | tab

def Escape.letter : Escape → Char
  | .quote => '"'
  | .backslash => '\\'
  | .slash => '/'
  | .backspace => 'b'
  | .formFeed => 'f'
  | .lineFeed => 'n'
  | .carriageReturn => 'r'
  | .tab => 't'

def Escape.meaning : Escape → Char
  | .quote => '"'
  | .backslash => '\\'
  | .slash => '/'
  | .backspace => Char.ofNat 0x8
  | .formFeed => Char.ofNat 0xC
  | .lineFeed => Char.ofNat 0xA
  | .carriageReturn => Char.ofNat 0xD
  | .tab => Char.ofNat 0x9

structure HexDigit where
  value : Fin 16
  capital : Bool

def HexDigit.letter (digit : HexDigit) : Char :=
  if digit.capital then (Nat.digitChar digit.value.val).toUpper else Nat.digitChar digit.value.val

/-- A unit of UTF-16, as four digits. -/
structure CodeUnit where
  first : HexDigit
  second : HexDigit
  third : HexDigit
  fourth : HexDigit

namespace CodeUnit

def text (unit : CodeUnit) : List Char :=
  [unit.first.letter, unit.second.letter, unit.third.letter, unit.fourth.letter]

def value (unit : CodeUnit) : Nat :=
  unit.first.value * 0x1000 + unit.second.value * 0x100 + unit.third.value * 0x10 +
    unit.fourth.value

/-- The first one of a surrogate pair. -/
def IsHigh (unit : CodeUnit) : Prop := 0xD800 ≤ unit.value ∧ unit.value < 0xDC00

/-- The second one of a surrogate pair. -/
def IsLow (unit : CodeUnit) : Prop := 0xDC00 ≤ unit.value ∧ unit.value < 0xE000

instance (unit : CodeUnit) : Decidable unit.IsHigh := inferInstanceAs (Decidable (_ ∧ _))

instance (unit : CodeUnit) : Decidable unit.IsLow := inferInstanceAs (Decidable (_ ∧ _))

/-- The character of a surrogate pair. -/
def paired (high low : CodeUnit) : Char :=
  Char.ofNat (0x10000 + (high.value - 0xD800) * 0x400 + (low.value - 0xDC00))

end CodeUnit

/-- What a string literal is made of. -/
inductive Piece where
  | plain (letter : Char) (bare : letter ≠ '"' ∧ letter ≠ '\\' ∧ 0x20 ≤ letter.toNat)
  | escaped (escape : Escape)
  | numbered (unit : CodeUnit)

def Piece.text : Piece → List Char
  | .plain letter _ => [letter]
  | .escaped escape => ['\\', escape.letter]
  | .numbered unit => '\\' :: 'u' :: unit.text

/-- The characters that a literal stands for. It stands for none if one half of a surrogate pair is
without the other. -/
def meaning? : List Piece → Option (List Char)
  | [] => some []
  | .plain letter _ :: pieces => (meaning? pieces).map (letter :: ·)
  | .escaped escape :: pieces => (meaning? pieces).map (escape.meaning :: ·)
  | .numbered unit :: pieces =>
    if unit.IsLow then none
    else if unit.IsHigh then
      match pieces with
      | .numbered low :: pieces =>
        if low.IsLow then (meaning? pieces).map (CodeUnit.paired unit low :: ·) else none
      | _ => none
    else (meaning? pieces).map (Char.ofNat unit.value :: ·)

def literal (pieces : List Piece) : List Char := '"' :: pieces.flatMap Piece.text ++ ['"']

end Json

mutual

/-- A value of a document, as it is written. -/
inductive Json where
  | null
  | boolean (value : Bool)
  | number (numeral : Json.Numeral)
  | string (pieces : List Json.Piece)
  | array (gap : Json.Gap) (elements : List Json.Element)
  | object (gap : Json.Gap) (members : List Json.Member)

inductive Json.Element where
  | mk (before : Json.Gap) (value : Json) (after : Json.Gap)

inductive Json.Member where
  | mk (before : Json.Gap) (key : List Json.Piece) (afterKey beforeValue : Json.Gap) (value : Json)
      (after : Json.Gap)

end

mutual

def Json.text : Json → List Char
  | .null => "null".toList
  | .boolean true => "true".toList
  | .boolean false => "false".toList
  | .number numeral => numeral.text
  | .string pieces => Json.literal pieces
  | .array gap elements => '[' :: gap.text ++ Json.Element.allText elements ++ [']']
  | .object gap members => '\x7b' :: gap.text ++ Json.Member.allText members ++ ['\x7d']

def Json.Element.text : Json.Element → List Char
  | .mk before value after => before.text ++ value.text ++ after.text

/-- Elements with commas between them. -/
def Json.Element.allText : List Json.Element → List Char
  | [] => []
  | element :: elements => element.text ++ Json.Element.moreText elements

/-- Elements with a comma before each. -/
def Json.Element.moreText : List Json.Element → List Char
  | [] => []
  | element :: elements => ',' :: element.text ++ Json.Element.moreText elements

def Json.Member.text : Json.Member → List Char
  | .mk before key afterKey beforeValue value after =>
    before.text ++ Json.literal key ++ afterKey.text ++ ':' :: beforeValue.text ++ value.text ++
      after.text

def Json.Member.allText : List Json.Member → List Char
  | [] => []
  | member :: members => member.text ++ Json.Member.moreText members

def Json.Member.moreText : List Json.Member → List Char
  | [] => []
  | member :: members => ',' :: member.text ++ Json.Member.moreText members

end

namespace Json

def Element.value : Element → Json
  | .mk _ value _ => value

namespace Member

def key : Member → List Piece
  | .mk _ key _ _ _ _ => key

def value : Member → Json
  | .mk _ _ _ _ value _ => value

/-- The name that a member gives its value, if its key stands for one. -/
def name? (member : Member) : Option (List Char) := meaning? member.key

end Member

end Json

/-- A document that is an object. -/
structure ObjectText where
  before : Json.Gap
  gap : Json.Gap
  members : List Json.Member
  after : Json.Gap

def ObjectText.text (document : ObjectText) : List Char :=
  document.before.text ++ (Json.object document.gap document.members).text ++ document.after.text

/-- A document that is an array. -/
structure ArrayText where
  before : Json.Gap
  gap : Json.Gap
  elements : List Json.Element
  after : Json.Gap

def ArrayText.text (document : ArrayText) : List Char :=
  document.before.text ++ (Json.array document.gap document.elements).text ++ document.after.text

end PacketDivert.Settings
