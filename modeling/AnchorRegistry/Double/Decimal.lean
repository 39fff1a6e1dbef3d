import AnchorRegistry.Double.Rounding
import AnchorRegistry.Text.Numeral

/-! Reading a double from a decimal numeral, correctly rounded. `read?` takes the numerals that a
printed double may have; `readLenient?` and `readPayload?` are laxer and also take underscores and the
spaces around a number, the one as in `Text.readLenient?`, the other as in a payload. -/

namespace AnchorRegistry.Double

/-- The double nearest to `digits * 10 ^ exponent`. Numbers far outside the range of doubles are
settled by their size, so that no large power is computed for them. -/
def ofDecimal (negative : Bool) (digits : Nat) (exponent : Int) : Double :=
  let magnitude := exponent + (Text.ofNat digits).length
  if digits = 0 ∨ magnitude < -400 then ofUnits negative 0
  else if 400 < magnitude then infinite negative
  else
    match exponent with
    | .ofNat e => nearest negative (digits * Nat.pow 10 e * unitsPerOne) 1
    | .negSucc e => nearest negative (digits * unitsPerOne) (Nat.pow 10 (e + 1))

/-- Reads ASCII digits as one number; at least one is needed. -/
def digits? (t : Text) : Option Nat :=
  if t ≠ [] ∧ t.all CodePoint.isAsciiDigit then
    some (Text.ofDigits 10 (t.map fun c => c.value - '0'.toNat))
  else none

/-- The exponent of a numeral: nothing, or `e` with an optional sign and digits. -/
def exponent? : Text → Option Int
  | [] => some 0
  | c :: rest =>
    if c = 'e' ∨ c = 'E' then
      let (negative, digits) := Text.splitSign rest
      (digits? digits).map (Text.applySign negative)
    else none

/-- An unsigned decimal numeral: digits with or without a point among them, then an exponent. -/
def readMagnitude? (negative : Bool) (t : Text) : Option Double :=
  let whole := t.takeWhile CodePoint.isAsciiDigit
  let afterWhole := t.dropWhile CodePoint.isAsciiDigit
  let (fraction, tail) :=
    match afterWhole with
    | c :: rest =>
      if c = '.' then (rest.takeWhile CodePoint.isAsciiDigit, rest.dropWhile CodePoint.isAsciiDigit)
      else ([], afterWhole)
    | [] => ([], [])
  match digits? (whole ++ fraction), exponent? tail with
  | some digits, some exponent => some (ofDecimal negative digits (exponent - fraction.length))
  | _, _ => none

/-- The words for an infinity and for no number, in either case of letter. -/
def readWord? (negative : Bool) (t : Text) : Option Double :=
  let word := t.lowerAscii
  if word = ("inf" : Text) ∨ word = ("infinity" : Text) then some (infinite negative)
  else if word = ("nan" : Text) then some nan
  else none

def read? (t : Text) : Option Double :=
  let (negative, magnitude) := Text.splitSign t
  readWord? negative magnitude <|> readMagnitude? negative magnitude

/-- Removes underscores, each of which must stand between two digits. -/
def ungroupDigits? : (afterDigit : Bool) → Text → Option Text
  | _, [] => some []
  | afterDigit, c :: rest =>
    if c = '_' then
      match rest with
      | next :: _ => if afterDigit && next.isAsciiDigit then ungroupDigits? false rest else none
      | [] => none
    else (ungroupDigits? c.isAsciiDigit rest).map (c :: ·)

/-- A number as people write it: digits of any script, underscores between them, spaces around. -/
def readLenient? (t : Text) : Option Double :=
  (ungroupDigits? false (Text.asciiDigits (t.trimBy Text.isNumeralSpace))).bind read?

/-- Spaces may stand around a number and underscores inside it, but not both. -/
def readPayload? (t : Text) : Option Double :=
  read? (t.trimBy CodePoint.isSpace) <|> (Text.dropUnderscores? t).bind read?

end AnchorRegistry.Double
