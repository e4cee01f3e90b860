import PacketDivert.Settings.Literal

/-! Numbers of a settings document. Whole numbers are kept exactly as long as 64 bits hold them;
all others are binary fractions, computed by one multiplication or division by a power of ten. -/

namespace PacketDivert.Settings

inductive Number where
  | natural (value : Nat)
  | negative (magnitude : Nat)
  | real (value : Float)

/-- Appends digits to a number as long as it fits 64 bits. Says what did not fit. -/
def appendDigits (number : Nat) : List Char → Nat × List Char
  | [] => (number, [])
  | digit :: digits =>
    let next := number * 10 + (digit.toNat - '0'.toNat)
    if next < UInt64.size then appendDigits next digits else (number, digit :: digits)

def powerOfTen (exponent : Nat) : Float := Float.ofScientific 1 false exponent

/-- Divides by a power of ten, in steps of the largest one. -/
def divideByPower (number : Float) (exponent : Nat) : Float :=
  if exponent ≤ 308 then number / powerOfTen exponent
  else if number == 0 then number
  else divideByPower (number / powerOfTen 308) (exponent - 308)
  termination_by exponent

/-- The fraction `number * 10 ^ exponent`, unless it is too large. -/
def scaled? (number : Nat) (exponent : Int) : Option Float :=
  let start := Float.ofNat number
  if exponent < 0 then some (divideByPower start exponent.natAbs)
  else if exponent.toNat ≤ 308 then
    let result := start * powerOfTen exponent.toNat
    if result.isInf then none else some result
  else if number = 0 then some start
  else none

/-- What an `e` and the text after it say: digits with a sign. -/
def scanExponent (text : List Char) : Scanned Int :=
  let (sign, unsigned) : Int × List Char := match text with
    | '+' :: rest => (1, rest)
    | '-' :: rest => (-1, rest)
    | _ => (1, text)
  let digits := unsigned.takeWhile Char.isDigit
  match digits, unsigned with
  | [], [] => .error .incomplete
  | [], _ :: _ => .error .malformed
  | _ :: _, _ =>
    let size := digits.foldl (fun value digit => value * 10 + (digit.toNat - '0'.toNat)) 0
    .ok (sign * (size : Int), unsigned.dropWhile Char.isDigit)

/-- The digits after a point; there is at least one. -/
def scanFraction (text : List Char) : Scanned (List Char) :=
  match text.takeWhile Char.isDigit, text with
  | [], [] => .error .incomplete
  | [], _ :: _ => .error .malformed
  | digits, _ => .ok (digits, text.dropWhile Char.isDigit)

/-- The number with the given whole digits, of which `number` took all but `left`, and the part of
it that begins with a point or an exponent. -/
def scanReal (negative : Bool) (number : Nat) (left : List Char) (text : List Char) :
    Except DocumentFault (Number × List Char) := do
  let (number, shift, text) ← match text with
    | '.' :: text => do
      let (digits, text) ← scanFraction text
      let (longer, dropped) := appendDigits number digits
      pure (longer, (left.length : Int) - (digits.length - dropped.length : Nat), text)
    | _ => pure (number, (left.length : Int), text)
  let (exponent, text) ← match text with
    | 'e' :: text | 'E' :: text => scanExponent text
    | _ => pure (0, text)
  match scaled? number (shift + exponent) with
  | none => .error .malformed
  | some value => .ok (.real (if negative then -value else value), text)

/-- A number without its sign. Only the number 0 begins with a zero. -/
def scanNumber (negative : Bool) (text : List Char) : Scanned Number :=
  let digits := text.takeWhile Char.isDigit
  let rest := text.dropWhile Char.isDigit
  match digits, rest with
  | [], [] => .error .incomplete
  | [], _ :: _ => .error .malformed
  | '0' :: _ :: _, _ => .error .malformed
  | digits, rest =>
    let (number, left) := appendDigits 0 digits
    let whole := match rest with
      | '.' :: _ | 'e' :: _ | 'E' :: _ => false
      | _ => left.isEmpty
    if whole then
      if !negative then .ok (.natural number, rest)
      else if 0 < number ∧ number ≤ 0x8000000000000000 then .ok (.negative number, rest)
      else .ok (.real (-Float.ofNat number), rest)
    else scanReal negative number left rest

end PacketDivert.Settings
