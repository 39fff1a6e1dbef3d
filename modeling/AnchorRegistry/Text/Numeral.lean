import AnchorRegistry.Text.Digit

/-! Reading numerals and words for truth values. `readLenient?` takes the digits of any script, single
underscores between them, a sign, spaces around the numeral and, in base sixteen, the mark `0x`. `readWhole`
is the reader for payloads: it takes ASCII digits only, but cleans the numeral of spaces, a plus, zeros at
either end and underscores before it counts them. Neither takes more than `maxDigits` decimal digits.
`readTruth?` takes a word in either case of letter and no blanks around it. -/

namespace AnchorRegistry.Text

/-- Folds digits into a number; an underscore must have a digit on either side. The flag says
whether the last code point was a digit. -/
def readGroupedFrom (base : Nat) (digit? : CodePoint → Option Nat) :
    (afterDigit : Bool) → (total : Nat) → Text → Option Nat
  | afterDigit, total, [] => if afterDigit then some total else none
  | afterDigit, total, c :: rest =>
    if c = '_' then
      if afterDigit then readGroupedFrom base digit? false total rest else none
    else
      match digit? c with
      | some value => readGroupedFrom base digit? true (total * base + value) rest
      | none => none

def readGrouped? (base : Nat) (digit? : CodePoint → Option Nat) (t : Text) : Option Nat :=
  readGroupedFrom base digit? false 0 t

/-- Splits a leading sign off; the flag says whether it was a minus. -/
def splitSign : Text → Bool × Text
  | c :: rest => if c = '-' then (true, rest) else if c = '+' then (false, rest) else (false, c :: rest)
  | [] => (false, [])

def applySign (negative : Bool) (n : Nat) : Int := if negative then -n else n

/-- Decimal digits of any script as the ASCII ones. -/
def asciiDigits (t : Text) : Text :=
  t.map fun c =>
    match c.decimalValue? with
    | some value => CodePoint.ofDigit value
    | none => c

/-- An ASCII digit or letter that is a digit in the base. -/
def digitIn? (base : Nat) (c : CodePoint) : Option Nat :=
  c.hexValue?.filter fun value => value < base

/-- Spaces around a lenient numeral: the ASCII ones and every blank beyond ASCII. -/
def isNumeralSpace (c : CodePoint) : Bool :=
  c.isAsciiSpace || (c.isBlank && 0x80 ≤ c.value)

/-- The mark of base sixteen and an underscore right after it; both may be absent. -/
def dropHexMark (t : Text) : Text :=
  match t with
  | first :: second :: rest =>
    if first = '0' ∧ (second = 'x' ∨ second = 'X') then
      match rest with
      | c :: more => if c = '_' then more else rest
      | [] => []
    else t
  | _ => t

/-- The most digits that a whole number in base ten may have. -/
def maxDigits : Nat := 4300

/-- A whole number in base ten or sixteen as people write it. -/
def readLenient? (base : Nat) (t : Text) : Option Int :=
  let (negative, digits) := splitSign (asciiDigits (t.trimBy isNumeralSpace))
  let digits := if base = 16 then dropHexMark digits else digits
  if base = 10 ∧ maxDigits < digits.countP fun c => c != ('_' : CodePoint) then none
  else (readGrouped? base (digitIn? base) digits).map (applySign negative)

/-- The text without its underscores, if each stands between two other code points. -/
def dropUnderscores? (t : Text) : Option Text :=
  let groups := t.splitOn '_'
  if groups.contains [] then none else some groups.flatten

inductive WholeFault where
  | unreadable
  | oversized
deriving DecidableEq

/-- A whole number in its plain form: an optional minus, then zero alone or digits that do not begin with
zero. The digits are counted before anything after them is looked at. -/
def readPlain (t : Text) : Except WholeFault Int :=
  let (negative, magnitude) : Bool × Text :=
    if t.head? = some ('-' : CodePoint) then (true, t.drop 1) else (false, t)
  let digits := magnitude.takeWhile CodePoint.isAsciiDigit
  let tail := magnitude.dropWhile CodePoint.isAsciiDigit
  let leadingZero := digits.head? = some ('0' : CodePoint)
  if !leadingZero && maxDigits < digits.length then .error .oversized
  else if digits = [] ∨ tail ≠ [] ∨ (leadingZero ∧ digits.length ≠ 1) then .error .unreadable
  else .ok (applySign negative (ofDigits 10 (digits.map fun c => c.value - '0'.toNat)))

/-- Drops zeros and the underscores among them. The last one read stays before a point and at the end. -/
def dropZeros? (last : CodePoint) : Text → Option Text
  | [] => some [last]
  | c :: rest =>
    if c = '0' ∨ c = '_' then dropZeros? c rest
    else if c = '.' then some (last :: c :: rest)
    else if c = '-' || c.isAsciiDigit then some (c :: rest)
    else none

/-- Drops the zeros in front of a numeral, after which a minus may come. Only a digit begins a numeral. -/
def dropLeadingZeros? : Text → Option Text
  | [] => none
  | c :: rest =>
    if c = '0' then dropZeros? c rest else if c.isAsciiDigit then some (c :: rest) else none

/-- Cuts a point and the zeros after it off the end of a numeral; at least one zero must follow. -/
def dropZeroFraction (t : Text) : Text :=
  let whole := t.takeWhile fun c => c != ('.' : CodePoint)
  let zeros := t.drop (whole.length + 1)
  if zeros ≠ [] ∧ zeros.all fun c => c == ('0' : CodePoint) then whole else t

/-- The plain form of a numeral that is spelled more freely. -/
def plainForm? (t : Text) : Option Text := do
  let t := t.trimBy CodePoint.isSpace
  let (negative, magnitude) := splitSign t
  let digits ← dropUnderscores? (dropZeroFraction (← dropLeadingZeros? magnitude))
  return if negative then ('-' : CodePoint) :: digits else digits

/-- A whole number of a payload, in its plain form or else spelled more freely. Digits are found to be too
many only in the plain form. -/
def readWhole (t : Text) : Except WholeFault Int :=
  match readPlain t, plainForm? t with
  | .error .unreadable, some plain =>
    match readPlain plain with
    | .ok n => .ok n
    | .error _ => .error .unreadable
  | outcome, _ => outcome

def trueWords : List Text := ["1", "true", "t", "yes", "y", "on"]

def falseWords : List Text := ["0", "false", "f", "no", "n", "off"]

def readTruth? (t : Text) : Option Bool :=
  if t.lowerAscii ∈ trueWords then some true
  else if t.lowerAscii ∈ falseWords then some false
  else none

end AnchorRegistry.Text
