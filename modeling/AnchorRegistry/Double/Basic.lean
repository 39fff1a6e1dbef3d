/-! Double-precision numbers as exact values. Every finite one is a whole multiple of `2 ^ (-1074)`, so
it is kept as a sign and that multiple, its `units`; comparison and the test for a whole number are then
arithmetic on natural numbers. `Representable` says which multiples are doubles: at most 53 significant
bits, below `2 ^ 1024`. Zero has two signs, and a NaN carries nothing. -/

namespace AnchorRegistry

/-- How many units make one. -/
def unitsPerOne : Nat := Nat.pow 2 1074

theorem unitsPerOne_pos : 0 < unitsPerOne := by
  unfold unitsPerOne
  generalize 1074 = exponent
  exact Nat.two_pow_pos exponent

/-- The distance between neighbouring doubles around a number of units. -/
def spacing (units : Nat) : Nat := Nat.pow 2 (units.log2 - 52)

def Representable (units : Nat) : Prop := units < Nat.pow 2 2098 ∧ spacing units ∣ units

instance (units : Nat) : Decidable (Representable units) :=
  inferInstanceAs (Decidable (_ ∧ _))

inductive Double where
  | nan
  | infinite (negative : Bool)
  | finite (negative : Bool) (units : Nat) (representable : Representable units)
deriving DecidableEq

namespace Double

/-- A signed number of units, and an infinity where no double has so many. -/
def ofUnits (negative : Bool) (units : Nat) : Double :=
  if h : Representable units then finite negative units h else infinite negative

def zero : Double := ofUnits false 0

instance : Inhabited Double := ⟨zero⟩

def one : Double := ofUnits false unitsPerOne

def oneHundred : Double := ofUnits false (100 * unitsPerOne)

def isFinite : Double → Bool
  | finite .. => true
  | _ => false

/-- The value in units; both zeros have none. -/
def signedUnits? : Double → Option Int
  | finite negative units _ => some (if negative then -units else units)
  | _ => none

/-- The whole number that a double is, if it is one. -/
def whole? : Double → Option Int
  | finite negative units _ =>
    if units % unitsPerOne = 0 then
      let n : Int := ↑(units / unitsPerOne)
      some (if negative then -n else n)
    else none
  | _ => none

/-- The whole part, without the fraction. -/
def truncate? : Double → Option Int
  | finite negative units _ =>
    let n : Int := ↑(units / unitsPerOne)
    some (if negative then -n else n)
  | _ => none

/-- A negative zero becomes the positive one and all else stays. -/
def dropZeroSign : Double → Double
  | finite negative units h => finite (negative && units != 0) units h
  | d => d

@[simp] theorem signedUnits?_dropZeroSign (d : Double) : d.dropZeroSign.signedUnits? = d.signedUnits? := by
  cases d with
  | finite negative units h =>
    cases negative <;> by_cases hu : units = 0 <;> simp [dropZeroSign, signedUnits?, hu]
  | _ => rfl

@[simp] theorem dropZeroSign_dropZeroSign (d : Double) : d.dropZeroSign.dropZeroSign = d.dropZeroSign := by
  cases d with
  | finite negative units h => simp [dropZeroSign]
  | _ => rfl

end Double

end AnchorRegistry
