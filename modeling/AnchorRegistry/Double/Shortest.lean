import AnchorRegistry.Double.Rounding
import AnchorRegistry.Text.Digit

/-! The shortest decimal numeral of a double: the fewest digits that read back as the same double, and
among those the nearest, the even one of two equally near. For one to seventeen digits the two neighbours
of the value on the decimal grid of that many digits are tested against the interval of reals that round
to the double; the first grid with a hit wins, and of two hits the nearer. `toText` then places the point:
positional notation from `1e-4` up to below `1e16`, always with a fraction, and an exponent of two digits
or more outside. -/

namespace AnchorRegistry.Double

/-- The number `e` with `10 ^ (e - 1) ≤ value < 10 ^ e`, for a positive number of units. -/
def decimalExponent (units : Nat) : Int :=
  if unitsPerOne ≤ units then (Text.ofNat (units / unitsPerOne)).length
  else
    match (List.range 330).find? fun shift => unitsPerOne ≤ units * Nat.pow 10 shift with
    | some shift => 1 - shift
    | none => 0

/-- A decimal `digits * 10 ^ exponent`. -/
structure Decimal where
  digits : Nat
  exponent : Int

/-- Whether a decimal lies among the reals that round to the given units. The ends of that interval
belong to it when the significand is even, and below a power of two it reaches half as far. All
quantities are compared in quarter units, over the denominator of the decimal. -/
def roundsTo (units : Nat) (decimal : Decimal) : Bool :=
  let step := spacing units
  let below := if units = Nat.pow 2 units.log2 ∧ 1 < step then step else 2 * step
  let scale := Nat.pow 10 (-decimal.exponent).toNat
  let value := 4 * decimal.digits * unitsPerOne * Nat.pow 10 decimal.exponent.toNat
  let low := (4 * units - below) * scale
  let high := (4 * units + 2 * step) * scale
  if units / step % 2 = 0 then low ≤ value && value ≤ high else low < value && value < high

/-- The decimal just below the value, or equal to it, at a power of ten. -/
def floorAt (units : Nat) (exponent : Int) : Decimal :=
  ⟨units * Nat.pow 10 (-exponent).toNat / (unitsPerOne * Nat.pow 10 exponent.toNat), exponent⟩

/-- Whether the upper neighbour of the decimal just below is nearer to the value, or as near and even. -/
def upperNearer (units : Nat) (lower : Decimal) : Bool :=
  let midpoint := (2 * lower.digits + 1) * unitsPerOne * Nat.pow 10 lower.exponent.toNat
  let value := 2 * units * Nat.pow 10 (-lower.exponent).toNat
  midpoint < value || (midpoint == value && lower.digits % 2 == 1)

/-- The neighbour of the value at a power of ten that reads back, the nearer one if both do. -/
def neighbour? (units : Nat) (exponent : Int) : Option Decimal :=
  let lower := floorAt units exponent
  let upper : Decimal := ⟨lower.digits + 1, exponent⟩
  match roundsTo units lower, roundsTo units upper with
  | true, true => some (if upperNearer units lower then upper else lower)
  | true, false => some lower
  | false, true => some upper
  | false, false => none

/-- The shortest decimal of a positive number of units. -/
def shortest (units : Nat) : Decimal :=
  let magnitude := decimalExponent units
  ((List.range 17).findSome? fun (k : Nat) => neighbour? units (magnitude - (k + 1))).getD
    (floorAt units (magnitude - 17))

/-- Digits and the place of the point before the first of them, without zeros at the end. -/
def significant (decimal : Decimal) : Text × Int :=
  let digits := Text.ofNat decimal.digits
  ((digits.reverse.dropWhile fun c => c == ('0' : CodePoint)).reverse,
    decimal.exponent + digits.length)

def zeros (n : Nat) : Text := List.replicate n '0'

/-- The digits of an exponent with its sign, two at least. -/
def exponentText (exponent : Int) : Text :=
  (if exponent < 0 then ('-' : CodePoint) else '+') :: (Text.ofNat exponent.natAbs).padLeft 2 '0'

/-- Places the point; `point` counts the digits before it and may be negative. -/
def place (digits : Text) (point : Int) : Text :=
  if -4 < point ∧ point ≤ 16 then
    if point ≤ 0 then ("0." : Text) ++ zeros (-point).toNat ++ digits
    else
      let whole := digits.take point.toNat
      let fraction := digits.drop point.toNat
      whole ++ zeros (point.toNat - whole.length) ++ ("." : Text) ++
        (if fraction = [] then ("0" : Text) else fraction)
  else
    let fraction := digits.drop 1
    digits.take 1 ++ (if fraction = [] then [] else ("." : Text) ++ fraction) ++
      ("e" : Text) ++ exponentText (point - 1)

def toText : Double → Text
  | nan => "nan"
  | infinite negative => if negative then "-inf" else "inf"
  | finite negative units _ =>
    let magnitude : Text :=
      if units = 0 then "0.0"
      else
        let (digits, point) := significant (shortest units)
        place digits point
    if negative then ('-' : CodePoint) :: magnitude else magnitude

end AnchorRegistry.Double
