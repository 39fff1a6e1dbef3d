import AnchorRegistry.Double.Basic

/-! Rounding to the nearest double, ties to the even neighbour. A positive quotient of two natural numbers
is rounded on the grid of doubles around it, and what lies past the largest double becomes an infinity. A
sum is exact until it is rounded once. -/

namespace AnchorRegistry

/-- The quotient rounded to the nearest natural number, a half going to the even neighbour. -/
def roundHalfEven (numerator denominator : Nat) : Nat :=
  let quotient := numerator / denominator
  let twice := 2 * (numerator % denominator)
  if twice < denominator then quotient
  else if denominator < twice then quotient + 1
  else quotient + quotient % 2

/-- The multiple of the spacing that is nearest to a quotient of units. -/
def roundUnits (numerator denominator : Nat) : Nat :=
  let step := spacing (numerator / denominator)
  roundHalfEven numerator (denominator * step) * step

namespace Double

/-- The double nearest to a signed quotient of units. -/
def nearest (negative : Bool) (numerator denominator : Nat) : Double :=
  ofUnits negative (roundUnits numerator denominator)

/-- The sum of two doubles, rounded once. A sum of nothing is negative only if both parts are. -/
def add : Double → Double → Double
  | nan, _ | _, nan => nan
  | infinite a, infinite b => if a = b then infinite a else nan
  | infinite a, _ => infinite a
  | _, infinite b => infinite b
  | finite a x _, finite b y _ =>
    let sum : Int := (if a then -(x : Int) else x) + (if b then -(y : Int) else y)
    nearest (if sum = 0 then a && b else sum < 0) sum.natAbs 1

/-- The double nearest to a whole number, unless that is an infinity. -/
def ofInt? (n : Int) : Option Double :=
  match nearest (n < 0) (n.natAbs * unitsPerOne) 1 with
  | finite negative units h => some (finite negative units h)
  | _ => none

end Double

end AnchorRegistry
