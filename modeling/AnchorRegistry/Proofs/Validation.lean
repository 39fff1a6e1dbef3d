import AnchorRegistry.Payload.Request
import AnchorRegistry.Validation
import Mathlib.Algebra.Order.Ring.Int

/-! What the checks accept. A check finds nothing exactly where a stated condition holds: a text fits once
it is stripped, a number has a finite value between zero and the largest of its column. `Accepts` says of a
metric which numbers are legal, in units and without a double's rounding, and an update is accepted exactly
when it supplies something and every metric it supplies has a legal value. -/

namespace AnchorRegistry

namespace Number

/-- The exact value in units; only a finite number has one. -/
def units? : Number → Option Int
  | int n => some (n * unitsPerOne)
  | double d => d.signedUnits?

theorem extent_eq_finite {n : Number} {units : Int} : n.extent = .finite units ↔ n.units? = some units := by
  rcases n with n | (_ | (_ | _) | ⟨_, _, _⟩) <;>
    simp only [extent, units?, Double.signedUnits?, Extent.finite.injEq, Option.some.injEq, reduceCtorEq]

theorem isFinite_iff (n : Number) : n.isFinite ↔ ∃ units, n.units? = some units := by
  rcases n with n | (_ | _ | ⟨_, _, _⟩)
  case int | double.finite => exact iff_of_true rfl ⟨_, rfl⟩
  all_goals
    refine iff_of_false Bool.false_ne_true ?_
    rintro ⟨units, ⟨⟩⟩

theorem less_of_units {m n : Number} {x y : Int} (left : m.units? = some x) (right : n.units? = some y) :
    m.less n = decide (x < y) := by
  rw [less, extent_eq_finite.2 left, extent_eq_finite.2 right]
  rfl

theorem isNegative_of_units {n : Number} {units : Int} (value : n.units? = some units) :
    n.isNegative = decide (units < 0) := by
  have zero : (int 0).units? = some 0 := congrArg some (Int.zero_mul _)
  exact less_of_units value zero

end Number

namespace Double

/-- Finite and at least zero. -/
def NonNegative (d : Double) : Prop := ∃ units, d.signedUnits? = some units ∧ 0 ≤ units

/-- Finite and between zero and a whole number, both included. -/
def UpTo (limit : Nat) (d : Double) : Prop :=
  ∃ units, d.signedUnits? = some units ∧ 0 ≤ units ∧ units ≤ limit * unitsPerOne

theorem NonNegative.dropZeroSign {d : Double} (h : d.NonNegative) : d.dropZeroSign.NonNegative := by
  obtain ⟨units, value, nonneg⟩ := h
  exact ⟨units, by rw [signedUnits?_dropZeroSign, value], nonneg⟩

theorem UpTo.dropZeroSign {limit : Nat} {d : Double} (h : d.UpTo limit) : d.dropZeroSign.UpTo limit := by
  obtain ⟨units, value, range⟩ := h
  exact ⟨units, by rw [signedUnits?_dropZeroSign, value], range⟩

theorem signedUnits?_zero : zero.signedUnits? = some 0 := by
  have representable : Representable 0 := by decide +kernel
  rw [zero, ofUnits, dif_pos representable]
  rfl

theorem nonNegative_zero : zero.NonNegative := ⟨0, signedUnits?_zero, le_rfl⟩

theorem signedUnits?_one : one.signedUnits? = some ↑unitsPerOne := by
  have representable : Representable unitsPerOne := by decide +kernel
  rw [one, ofUnits, dif_pos representable]
  rfl

theorem signedUnits?_oneHundred : oneHundred.signedUnits? = some ↑(100 * unitsPerOne) := by
  have representable : Representable (100 * unitsPerOne) := by decide +kernel
  rw [oneHundred, ofUnits, dif_pos representable]
  rfl

end Double

/-- A count or a duration that its column holds. -/
def IsCount (n : Int) : Prop := 0 ≤ n ∧ n ≤ maxCount

theorem isCount_zero : IsCount 0 := ⟨le_rfl, by decide⟩

theorem natCast_largest : ((2 ^ 63 - 1 : Nat) : Int) = maxCount := rfl

namespace Metric

theorem name_injective : Function.Injective name := by
  intro metric other same
  apply Option.some.inj
  rw [← ofName?_name metric, ← ofName?_name other, same]

/-- The largest legal value as a whole number. -/
def limit? : Metric → Option Nat
  | trustScore => some 1
  | reliabilityScore => some 100
  | totalVolumeUsd => none
  | _ => some (2 ^ 63 - 1)

/-- The number is legal for the metric: finite, not negative and not above the limit. -/
def Accepts (metric : Metric) (n : Number) : Prop :=
  ∃ units, n.units? = some units ∧ 0 ≤ units ∧ ∀ limit ∈ metric.limit?, units ≤ limit * unitsPerOne

theorem upper?_eq_none_iff (metric : Metric) : metric.upper? = none ↔ metric.limit? = none := by
  cases metric <;> simp [upper?, limit?]

theorem units?_of_upper? {metric : Metric} {upper : Number} {limit : Nat} (bound : metric.upper? = some upper)
    (same : metric.limit? = some limit) : upper.units? = some ((limit : Int) * unitsPerOne) := by
  cases metric with
  | trustScore =>
      cases bound
      cases same
      rw [Number.units?, Double.signedUnits?_one, Nat.cast_one, one_mul]
  | reliabilityScore =>
      cases bound
      cases same
      rw [Number.units?, Double.signedUnits?_oneHundred, Nat.cast_mul]
  | totalVolumeUsd => cases bound
  | _ =>
      cases bound
      cases same
      rw [natCast_largest]
      rfl

theorem accepts_trustScore {d : Double} : trustScore.Accepts (.double d) ↔ d.UpTo 1 := by
  simp only [Accepts, limit?, Double.UpTo, Number.units?, Option.mem_some_iff, forall_eq']

theorem accepts_reliabilityScore {d : Double} : reliabilityScore.Accepts (.double d) ↔ d.UpTo 100 := by
  simp only [Accepts, limit?, Double.UpTo, Number.units?, Option.mem_some_iff, forall_eq']

theorem accepts_totalVolumeUsd {d : Double} : totalVolumeUsd.Accepts (.double d) ↔ d.NonNegative := by
  simp only [Accepts, limit?, Double.NonNegative, Number.units?, Option.not_mem_none, IsEmpty.forall_iff,
    implies_true, and_true]

theorem accepts_int {metric : Metric} (limit : metric.limit? = some (2 ^ 63 - 1)) {n : Int} :
    metric.Accepts (.int n) ↔ IsCount n := by
  have positive : (0 : Int) < unitsPerOne := Int.natCast_pos.2 unitsPerOne_pos
  have value : Number.units? (.int n) = some (n * unitsPerOne) := rfl
  simp only [Accepts, limit, value, Option.some.injEq, exists_eq_left', Option.mem_some_iff, forall_eq']
  rw [natCast_largest, mul_nonneg_iff_of_pos_right positive, mul_le_mul_iff_of_pos_right positive]
  rfl

end Metric

namespace Validation

theorem optionalText_eq_none {value : Option Text} (field : Text) {limit : Nat} :
    optionalText value field (.int limit) = none ↔ ∀ t ∈ value, t.strip.length ≤ limit := by
  cases value with
  | none => simp [optionalText]
  | some t => simp [optionalText]

theorem requiredText_eq_none {t : Text} (field : Text) {limit : Nat} :
    requiredText (some t) field (.int limit) = none ↔ t.strip ≠ [] ∧ t.strip.length ≤ limit := by
  rw [requiredText]
  split
  · rename_i blank
    simp [blank]
  · rename_i nonempty
    rw [optionalText_eq_none]
    simp [nonempty]

theorem anchor_eq_none {accountReference name : Text} {homeDomain : Option Text} :
    anchor (some accountReference) (some name) homeDomain = none ↔
      (accountReference.strip ≠ [] ∧ accountReference.strip.length ≤ 56) ∧
        (name.strip ≠ [] ∧ name.strip.length ≤ 255) ∧ ∀ t ∈ homeDomain, t.strip.length ≤ 255 := by
  rw [← requiredText_eq_none "account_reference", ← requiredText_eq_none "name",
    ← optionalText_eq_none "home_domain"]
  simp only [anchor, Option.orElse_eq_orElse, Option.orElse_eq_or, Option.or_eq_none_iff]
  rfl

theorem nonNegative_eq_none {n : Number} {field : Text} :
    nonNegative (some n) field = none ↔ ∃ units, n.units? = some units ∧ 0 ≤ units := by
  simp only [nonNegative]
  by_cases finite : n.isFinite
  · obtain ⟨units, value⟩ := (Number.isFinite_iff n).1 finite
    rw [Number.isNegative_of_units value, finite]
    simp [value]
  · have none_finite : n.units? = none := by
      cases value : n.units? with
      | none => rfl
      | some units => exact (finite ((Number.isFinite_iff n).2 ⟨units, value⟩)).elim
    simp [finite, none_finite]

theorem upperBound_eq_none {n upper : Number} {field : Text} {x y : Int} (value : n.units? = some x)
    (bound : upper.units? = some y) : upperBound (some n) field upper = none ↔ x ≤ y := by
  simp [upperBound, Number.less_of_units bound value]

theorem transactionTotals_eq_none {total successful failed : Int} :
    transactionTotals total successful failed = none ↔ successful + failed ≤ total := by
  simp [transactionTotals]

theorem asset_eq_none {code : Text} {issuer : Option Text} {totalSupply : Option Double}
    {numHolders : Option Int} :
    asset (some code) issuer (totalSupply.map .double) (numHolders.map .int) = none ↔
      (code.strip ≠ [] ∧ code.strip.length ≤ 12) ∧ (∀ t ∈ issuer, t.strip.length ≤ 56) ∧
        (∀ d ∈ totalSupply, d.NonNegative) ∧ ∀ n ∈ numHolders, IsCount n := by
  have supply : nonNegative (totalSupply.map .double) "total_supply" = none ↔
      ∀ d ∈ totalSupply, d.NonNegative := by
    cases totalSupply with
    | none => simp [nonNegative]
    | some d => simp only [Option.map_some, nonNegative_eq_none, Option.mem_some_iff, forall_eq']; rfl
  have holders : nonNegative (numHolders.map .int) "num_holders" = none ∧
      upperBound (numHolders.map .int) "num_holders" (.int maxCount) = none ↔ ∀ n ∈ numHolders, IsCount n := by
    cases numHolders with
    | none => simp [nonNegative, upperBound]
    | some n =>
        have value : Number.units? (.int n) = some (n * unitsPerOne) := rfl
        have positive : (0 : Int) < unitsPerOne := Int.natCast_pos.2 unitsPerOne_pos
        rw [Option.map_some, nonNegative_eq_none, upperBound, Number.less_int]
        simp only [value, Option.some.injEq, exists_eq_left', mul_nonneg_iff_of_pos_right positive,
          decide_eq_true_eq, ite_eq_right_iff, reduceCtorEq, imp_false, not_lt, Option.mem_some_iff, forall_eq']
        rfl
  rw [← requiredText_eq_none "code", ← optionalText_eq_none "issuer", ← supply,
    ← holders]
  simp only [asset, Option.orElse_eq_orElse, Option.orElse_eq_or, Option.or_eq_none_iff]
  rfl

/-- An entry passes exactly when it gives a metric a legal value. -/
theorem metricEntry_eq_none {metric : Metric} {value : Option Number} :
    metricEntry metric.name value = none ↔ ∃ n, value = some n ∧ metric.Accepts n := by
  unfold metricEntry
  rw [Metric.ofName?_name]
  cases value with
  | none => simp
  | some n =>
      simp only [Option.orElse_eq_orElse, Option.orElse_eq_or, Option.or_eq_none_iff, nonNegative_eq_none,
        Option.some.injEq, exists_eq_left']
      rw [Metric.Accepts]
      cases bound : metric.upper? with
      | none =>
          rw [(Metric.upper?_eq_none_iff metric).1 bound]
          simp only [Option.bind_none, Option.not_mem_none, IsEmpty.forall_iff, implies_true, and_true]
      | some upper =>
          obtain ⟨limit, same⟩ : ∃ limit, metric.limit? = some limit := by
            rw [← Option.ne_none_iff_exists', Ne, ← Metric.upper?_eq_none_iff, bound]
            exact Option.some_ne_none upper
          have largest := Metric.units?_of_upper? bound same
          rw [Option.bind_some, same]
          constructor
          · rintro ⟨⟨units, value, nonneg⟩, below⟩
            rw [upperBound_eq_none value largest] at below
            refine ⟨units, value, nonneg, fun other member => ?_⟩
            cases member
            exact below
          · rintro ⟨units, value, nonneg, below⟩
            refine ⟨⟨units, value, nonneg⟩, ?_⟩
            rw [upperBound_eq_none value largest]
            exact below limit rfl

theorem metricsUpdate_eq_none {entries : List (Text × Option Number)} :
    metricsUpdate entries = none ↔ entries ≠ [] ∧ ∀ e ∈ entries, metricEntry e.1 e.2 = none := by
  rw [metricsUpdate]
  split
  · rename_i empty
    simp [empty]
  · rename_i nonempty
    simp [nonempty]

end Validation

namespace Payload

theorem Entry.value?_map {α β : Type} (f : α → β) (entry : Entry α) :
    (entry.map f).value? = entry.value?.map f := by
  cases entry <;> rfl

theorem Entry.isSupplied_of_value? {α : Type} {entry : Entry α} {a : α} (value : entry.value? = some a) :
    entry.isSupplied := by
  cases entry with
  | absent => cases value
  | _ => rfl

namespace MetricsUpdate

/-- A payload is accepted exactly when it supplies a metric and gives each one it supplies a legal value. -/
theorem accepted_iff {p : MetricsUpdate} :
    Validation.metricsUpdate p.changes = none ↔
      (∃ metric, p.supplies metric) ∧
        ∀ metric, p.supplies metric → ∃ n, (p.entry metric).value? = some n ∧ metric.Accepts n := by
  rw [Validation.metricsUpdate_eq_none]
  have nonempty : p.changes ≠ [] ↔ ∃ metric, p.supplies metric := by
    simp [changes, List.filter_eq_nil_iff, Metric.mem_all]
  have legal : (∀ e ∈ p.changes, Validation.metricEntry e.1 e.2 = none) ↔
      ∀ metric, p.supplies metric → ∃ n, (p.entry metric).value? = some n ∧ metric.Accepts n := by
    simp [changes, Validation.metricEntry_eq_none, Metric.mem_all]
  rw [nonempty, legal]

/-- The value that an accepted update gives to a column is legal for its metric. -/
theorem accepts_given {p : MetricsUpdate} (valid : Validation.metricsUpdate p.changes = none) (metric : Metric)
    {α : Type} {f : α → Number} {column : Entry α} (same : p.entry metric = column.map f) :
    ∀ a ∈ column.value?, metric.Accepts (f a) := by
  intro a given
  have value : (p.entry metric).value? = some (f a) := by
    rw [same, Entry.value?_map, given]
    rfl
  have supplied : p.supplies metric := by
    rw [supplies, Entry.isSupplied_of_value? value]
  obtain ⟨n, found, accepts⟩ := (accepted_iff.1 valid).2 metric supplied
  rw [value] at found
  cases found
  exact accepts

end MetricsUpdate

end Payload

end AnchorRegistry
