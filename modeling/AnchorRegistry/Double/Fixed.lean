import AnchorRegistry.Double.Shortest

/-! Numerals with a given number of digits, correctly rounded with ties to even: `fixed` counts places
after the point, `scientific` places after the first digit, and `general` chooses between the two by the
size of the exponent and drops zeros at the end. The sign is left to the caller. -/

namespace AnchorRegistry.Double

/-- A whole number read as one with `places` digits after the point. -/
def withPoint (places : Nat) (n : Nat) : Text :=
  let digits := (Text.ofNat n).padLeft (places + 1) '0'
  let whole := digits.take (digits.length - places)
  if places = 0 then whole else whole ++ ("." : Text) ++ digits.drop (digits.length - places)

def fixed (places : Nat) (units : Nat) : Text :=
  withPoint places (roundHalfEven (units * Nat.pow 10 places) unitsPerOne)

/-- The value rounded to `places + 1` digits: those digits as a number, and the exponent of the first. -/
def scientificParts (places : Nat) (units : Nat) : Nat × Int :=
  if units = 0 then (0, 0)
  else
    let exponent := decimalExponent units - 1
    let shift := (places : Int) - exponent
    let digits :=
      roundHalfEven (units * Nat.pow 10 shift.toNat) (unitsPerOne * Nat.pow 10 (-shift).toNat)
    if digits = Nat.pow 10 (places + 1) then (Nat.pow 10 places, exponent + 1) else (digits, exponent)

def scientific (places : Nat) (units : Nat) : Text :=
  let (digits, exponent) := scientificParts places units
  withPoint places digits ++ ("e" : Text) ++ exponentText exponent

/-- Drops zeros at the end of a fraction, and the point if nothing is left after it. -/
def dropTrailingZeros (t : Text) : Text :=
  if t.contains '.' then
    let kept := (t.reverse.dropWhile fun c => c == ('0' : CodePoint)).reverse
    if kept.getLast? = some ('.' : CodePoint) then kept.dropLast else kept
  else t

/-- No double has more significant digits than this, nor so many before the point. -/
def mostDigits : Nat := 800

/-- At most `precision` significant digits. Zeros at the end and a point that nothing follows are dropped;
a numeral in full has all its digits and always a point. -/
def general (full : Bool) (precision : Nat) (units : Nat) : Text :=
  let precision := max (if full then precision else min precision mostDigits) 1
  let (digits, exponent) := scientificParts (precision - 1) units
  let shape := fun (places : Nat) =>
    let t := withPoint places digits
    if !full then dropTrailingZeros t else if places = 0 then t ++ ("." : Text) else t
  if -4 ≤ exponent ∧ exponent < precision then shape (precision - 1 - exponent).toNat
  else shape (precision - 1) ++ ("e" : Text) ++ exponentText exponent

end AnchorRegistry.Double
