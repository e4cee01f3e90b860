import PacketDivert.Error

namespace PacketDivert.Settings

/-- What reading a part of a document gives: its value and the rest of the text. -/
abbrev Scanned (α : Type) := Except DocumentFault (α × List Char)

def hexDigit? (letter : Char) : Option Nat :=
  if '0' ≤ letter ∧ letter ≤ '9' then some (letter.toNat - '0'.toNat)
  else if 'a' ≤ letter ∧ letter ≤ 'f' then some (letter.toNat - 'a'.toNat + 10)
  else if 'A' ≤ letter ∧ letter ≤ 'F' then some (letter.toNat - 'A'.toNat + 10)
  else none

/-- Four hexadecimal digits. A text of fewer than four bytes is taken to be cut short. -/
def scanUnit : List Char → Scanned Nat
  | first :: second :: third :: fourth :: rest =>
    match hexDigit? first, hexDigit? second, hexDigit? third, hexDigit? fourth with
    | some a, some b, some c, some d => .ok (((a * 16 + b) * 16 + c) * 16 + d, rest)
    | _, _, _, _ => .error .malformed
  | rest => .error (if (String.ofList rest).utf8ByteSize < 4 then .incomplete else .malformed)

def isHighSurrogate (code : Nat) : Bool := 0xD800 ≤ code && code ≤ 0xDBFF

def isLowSurrogate (code : Nat) : Bool := 0xDC00 ≤ code && code ≤ 0xDFFF

/-- The character written by number: one unit, or a pair of surrogates. -/
def scanNumbered (text : List Char) : Scanned Char :=
  match scanUnit text with
  | .error fault => .error fault
  | .ok (high, rest) =>
    if isLowSurrogate high then .error .malformed
    else if isHighSurrogate high then
      match rest with
      | '\\' :: 'u' :: rest =>
        match scanUnit rest with
        | .error fault => .error fault
        | .ok (low, rest) =>
          if isLowSurrogate low then
            .ok (Char.ofNat (0x10000 + (high - 0xD800) * 0x400 + (low - 0xDC00)), rest)
          else .error .malformed
      | [] | ['\\'] => .error .incomplete
      | _ => .error .malformed
    else .ok (Char.ofNat high, rest)

theorem length_of_scanUnit {text rest : List Char} {unit : Nat}
    (scanned : scanUnit text = .ok (unit, rest)) : rest.length < text.length := by
  unfold scanUnit at scanned
  split at scanned
  · split at scanned
    · cases scanned
      simp only [List.length_cons]
      omega
    · cases scanned
  · cases scanned

theorem length_of_scanNumbered {text rest : List Char} {letter : Char}
    (scanned : scanNumbered text = .ok (letter, rest)) : rest.length < text.length := by
  unfold scanNumbered at scanned
  split at scanned
  · cases scanned
  · rename_i first
    have shorter := length_of_scanUnit first
    split at scanned
    · cases scanned
    · split at scanned
      · split at scanned
        · split at scanned
          · cases scanned
          · rename_i second
            have further := length_of_scanUnit second
            simp only [List.length_cons] at shorter
            split at scanned
            · obtain ⟨_, rfl⟩ := Prod.mk.inj (Except.ok.inj scanned)
              omega
            · cases scanned
        · cases scanned
        · cases scanned
        · cases scanned
      · cases scanned
        exact shorter

/-- The character that a backslash and a letter stand for. -/
def escaped? : Char → Option Char
  | '"' => some '"'
  | '\\' => some '\\'
  | '/' => some '/'
  | 'b' => some (Char.ofNat 8)
  | 'f' => some (Char.ofNat 12)
  | 'n' => some '\n'
  | 'r' => some '\r'
  | 't' => some '\t'
  | _ => none

/-- The rest of a string after its opening quote; `taken` holds the characters before it, the last
one first. -/
def scanStringAfter (taken : List Char) (text : List Char) : Scanned (List Char) :=
  match text with
  | [] => .error .incomplete
  | '"' :: rest => .ok (taken.reverse, rest)
  | ['\\'] => .error .incomplete
  | '\\' :: 'u' :: rest =>
    match _scanned : scanNumbered rest with
    | .error fault => .error fault
    | .ok (letter, after) => scanStringAfter (letter :: taken) after
  | '\\' :: letter :: rest =>
    match escaped? letter with
    | none => .error .malformed
    | some letter => scanStringAfter (letter :: taken) rest
  | letter :: rest =>
    if letter.toNat < 0x20 then .error .malformed else scanStringAfter (letter :: taken) rest
  termination_by text.length
  decreasing_by
    · have := length_of_scanNumbered _scanned
      simp only [List.length_cons]
      omega
    · simp only [List.length_cons]
      omega
    · simp only [List.length_cons]
      omega

def scanString (text : List Char) : Scanned (List Char) := scanStringAfter [] text

def nibble (number : Nat) : Char := (Nat.digitChar number)

/-- How a character is written inside a string. -/
def writeLetter (letter : Char) : List Char :=
  if letter == '"' then ['\\', '"']
  else if letter == '\\' then ['\\', '\\']
  else if letter == '\n' then ['\\', 'n']
  else if letter == '\r' then ['\\', 'r']
  else if letter == '\t' then ['\\', 't']
  else if letter == Char.ofNat 8 then ['\\', 'b']
  else if letter == Char.ofNat 12 then ['\\', 'f']
  else if letter.toNat < 0x20 then
    ['\\', 'u', '0', '0', nibble (letter.toNat / 16), nibble (letter.toNat % 16)]
  else [letter]

def writeString (text : List Char) : List Char := '"' :: text.flatMap writeLetter ++ ['"']

end PacketDivert.Settings
