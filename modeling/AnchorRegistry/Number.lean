import AnchorRegistry.Double.Shortest

/-! Numbers of a payload: a whole number of any size or a double. They are compared as the exact values
they denote, so no whole number is rounded to a double on the way; a NaN is neither below nor above
anything. -/

namespace AnchorRegistry

inductive Number where
  | int (n : Int)
  | double (d : Double)
deriving DecidableEq

namespace Number

/-- A value on the extended line, finite ones in units. -/
inductive Extent where
  | undefined
  | belowAll
  | finite (units : Int)
  | aboveAll
deriving DecidableEq

def extent : Number → Extent
  | int n => .finite (n * unitsPerOne)
  | double .nan => .undefined
  | double (.infinite true) => .belowAll
  | double (.infinite false) => .aboveAll
  | double (.finite negative units _) => .finite (if negative then -units else units)

def Extent.less : Extent → Extent → Bool
  | .undefined, _ => false
  | _, .undefined => false
  | .belowAll, y => y ≠ .belowAll
  | .finite x, .finite y => x < y
  | .finite _, .aboveAll => true
  | .finite _, .belowAll => false
  | .aboveAll, _ => false

def less (a b : Number) : Bool := a.extent.less b.extent

@[simp] theorem less_int (m n : Int) : (int m).less (int n) = decide (m < n) := by
  have positive : (0 : Int) < unitsPerOne := Int.natCast_pos.2 unitsPerOne_pos
  exact decide_eq_decide.2 (Int.mul_lt_mul_right positive)

def isNegative (a : Number) : Bool := a.less (.int 0)

/-- A whole number is always finite. -/
def isFinite : Number → Bool
  | int _ => true
  | double d => d.isFinite

/-- The sum. Whole numbers are added exactly; where a double is involved the other number becomes one too,
and a whole number that is too large for that has no sum with it. -/
def add? : Number → Number → Option Number
  | int m, int n => some (int (m + n))
  | int m, double y => (Double.ofInt? m).map fun x => double (x.add y)
  | double x, int n => (Double.ofInt? n).map fun y => double (x.add y)
  | double x, double y => some (double (x.add y))

def toText : Number → Text
  | int n => Text.ofInt n
  | double d => d.toText

end Number

end AnchorRegistry
