import AnchorRegistry.Proofs.Validation
import Mathlib.Algebra.Order.Field.Rat
import Mathlib.Data.Rat.Cast.Order

/-! What the check of an update decides. Legality is said without the checks: an entry is legal when it gives
a metric a number whose exact value, a rational, lies between zero and the metric's limit. `Objection` lists
what can be held against an entry, in the order of precedence, and `Applies` says of each what it means by
itself. The check of one entry finds nothing exactly where the entry is legal, and otherwise answers with the
first objection that applies; the check of an update answers for the first entry that is not legal. Which
entry that is depends on the order, and whether there is one does not. -/

namespace AnchorRegistry

/-- The exact value; a NaN and an infinity have none. -/
def Double.rational? : Double → Option ℚ
  | finite negative units _ => some ((if negative then -(units : ℚ) else units) / unitsPerOne)
  | _ => none

namespace Number

/-- The exact value, whole numbers of any size included. -/
def rational? : Number → Option ℚ
  | int n => some n
  | double d => d.rational?

theorem unitsPerOne_cast_pos : (0 : ℚ) < unitsPerOne := Nat.cast_pos.2 unitsPerOne_pos

theorem rational?_eq_map (n : Number) : n.rational? = n.units?.map fun units : Int => (units : ℚ) / unitsPerOne := by
  rcases n with n | (_ | _ | ⟨negative, units, representable⟩)
  case int =>
    rw [rational?, units?, Option.map_some, Int.cast_mul, Int.cast_natCast,
      mul_div_cancel_right₀ _ unitsPerOne_cast_pos.ne']
  case double.finite =>
    cases negative with
    | false =>
        show some ((units : ℚ) / unitsPerOne) = some (((units : Int) : ℚ) / unitsPerOne)
        rw [Int.cast_natCast]
    | true =>
        show some (-(units : ℚ) / unitsPerOne) = some (((-units : Int) : ℚ) / unitsPerOne)
        rw [Int.cast_neg, Int.cast_natCast]
  all_goals rfl

theorem rational?_of_units {n : Number} {units : Int} (value : n.units? = some units) :
    n.rational? = some ((units : ℚ) / unitsPerOne) := by
  rw [rational?_eq_map, value]
  rfl

theorem rational?_eq_none_iff (n : Number) : n.rational? = none ↔ n.isFinite = false := by
  rw [rational?_eq_map, Option.map_eq_none_iff, ← Bool.not_eq_true, isFinite_iff, Option.eq_none_iff_forall_ne_some,
    not_exists]

theorem units_nonneg_iff {units : Int} : (0 : ℚ) ≤ (units : ℚ) / unitsPerOne ↔ 0 ≤ units := by
  rw [le_div_iff₀ unitsPerOne_cast_pos, zero_mul]
  exact_mod_cast Iff.rfl

theorem units_le_iff {units : Int} {limit : Nat} :
    (units : ℚ) / unitsPerOne ≤ limit ↔ units ≤ limit * unitsPerOne := by
  rw [div_le_iff₀ unitsPerOne_cast_pos]
  exact_mod_cast Iff.rfl

end Number

/-- The number is legal for the metric exactly when its exact value is in range. -/
theorem Metric.accepts_iff {metric : Metric} {n : Number} :
    metric.Accepts n ↔ ∃ value, n.rational? = some value ∧ 0 ≤ value ∧ ∀ limit ∈ metric.limit?, value ≤ limit := by
  rw [Accepts, Number.rational?_eq_map]
  cases n.units? with
  | none => simp only [Option.map_none, reduceCtorEq, false_and, exists_false]
  | some units =>
      simp only [Option.map_some, Option.some.injEq, exists_eq_left', Number.units_nonneg_iff, Number.units_le_iff]

namespace Validation

/-- An entry of an update: a name and the value under it, none for null. -/
abbrev Supplied := Text × Option Number

/-- The entry gives a metric a number in range. -/
def Legal (entry : Supplied) : Prop :=
  ∃ metric : Metric, entry.1 = metric.name ∧ ∃ n value, entry.2 = some n ∧ n.rational? = some value ∧ 0 ≤ value ∧
    ∀ limit ∈ metric.limit?, value ≤ limit

/-- What can be held against an entry. -/
inductive Objection where
  | unknownMetric
  | nullMetric
  | notFinite
  | negativeValue
  | outOfRange

namespace Objection

/-- In the order of precedence. -/
def all : List Objection := [unknownMetric, nullMetric, notFinite, negativeValue, outOfRange]

def code : Objection → Text
  | unknownMetric => "UNKNOWN_METRIC"
  | nullMetric => "NULL_METRIC"
  | notFinite => "NOT_FINITE"
  | negativeValue => "NEGATIVE_VALUE"
  | outOfRange => "OUT_OF_RANGE"

/-- The objection by itself, whether or not another one comes before it. -/
def Applies : Objection → Supplied → Prop
  | unknownMetric, (name, _) => ∀ metric : Metric, name ≠ metric.name
  | nullMetric, (_, value) => value = none
  | notFinite, (_, value) => ∃ n, value = some n ∧ n.rational? = none
  | negativeValue, (_, value) => ∃ n x, value = some n ∧ n.rational? = some x ∧ x < 0
  | outOfRange, (name, value) => ∃ (metric : Metric) (limit : Nat) (n : Number) (x : ℚ), name = metric.name ∧
      limit ∈ metric.limit? ∧ value = some n ∧ n.rational? = some x ∧ limit < x

/-- The objection applies and none before it does. -/
def IsFirst (objection : Objection) (entry : Supplied) : Prop :=
  ∃ earlier later, all = earlier ++ objection :: later ∧ objection.Applies entry ∧
    ∀ other ∈ earlier, ¬other.Applies entry

section Spared

variable {metric : Metric} {name : Text} {n : Number} {x : ℚ} (valued : n.rational? = some x)

theorem not_unknownMetric (value : Option Number) : ¬unknownMetric.Applies (metric.name, value) :=
  fun unknown => unknown metric rfl

theorem not_nullMetric : ¬nullMetric.Applies (name, some n) := Option.some_ne_none n

include valued

theorem not_notFinite : ¬notFinite.Applies (name, some n) := by
  rintro ⟨_, ⟨⟩, infinite⟩
  rw [valued] at infinite
  cases infinite

theorem not_negativeValue (nonneg : 0 ≤ x) : ¬negativeValue.Applies (name, some n) := by
  rintro ⟨_, _, ⟨⟩, same, negative⟩
  rw [valued] at same
  cases same
  exact negative.not_ge nonneg

end Spared

end Objection

/-- The violation says of the entry what the first objection to it says. -/
def Blames (violation : Violation) (entry : Supplied) : Prop :=
  ∃ objection : Objection, objection.IsFirst entry ∧ violation.code = objection.code ∧
    violation.field? = some entry.1

theorem legal_name_iff {metric : Metric} {value : Option Number} :
    Legal (metric.name, value) ↔ ∃ n, value = some n ∧ metric.Accepts n := by
  simp only [Metric.accepts_iff]
  constructor
  · rintro ⟨other, same, n, v, given, rest⟩
    obtain rfl := Metric.name_injective same
    exact ⟨n, given, v, rest⟩
  · rintro ⟨n, given, v, rest⟩
    exact ⟨metric, rfl, n, v, given, rest⟩

theorem metricEntry_unknown {name : Text} (value : Option Number) (unknown : ∀ metric : Metric, name ≠ metric.name) :
    metricEntry name value = some (.unknownMetric name) := by
  have missing : Metric.ofName? name = none := by
    rw [Metric.ofName?, List.find?_eq_none]
    intro metric _ same
    exact unknown metric (of_decide_eq_true same).symm
  rw [metricEntry, missing]

/-- The check of one entry finds nothing exactly where the entry is legal. -/
theorem metricEntry_eq_none_iff (entry : Supplied) : metricEntry entry.1 entry.2 = none ↔ Legal entry := by
  obtain ⟨name, value⟩ := entry
  by_cases known : ∃ metric : Metric, name = metric.name
  · obtain ⟨metric, rfl⟩ := known
    rw [metricEntry_eq_none, legal_name_iff]
  · rw [metricEntry_unknown value (not_exists.1 known)]
    refine iff_of_false (Option.some_ne_none _) ?_
    rintro ⟨metric, same, _⟩
    exact known ⟨metric, same⟩

theorem nonNegative_cases {n : Number} {field : Text} {violation : Violation}
    (found : nonNegative (some n) field = some violation) :
    (n.rational? = none ∧ violation = .notFinite field) ∨
      ∃ x, n.rational? = some x ∧ x < 0 ∧ violation = .negativeValue field := by
  rw [nonNegative] at found
  cases value : n.units? with
  | none =>
      have infinite : n.rational? = none := by rw [Number.rational?_eq_map, value]; rfl
      rw [(Number.rational?_eq_none_iff n).1 infinite] at found
      cases found
      exact .inl ⟨infinite, rfl⟩
  | some units =>
      have finite : n.isFinite := (Number.isFinite_iff n).2 ⟨units, value⟩
      rw [finite, Number.isNegative_of_units value] at found
      obtain ⟨negative, ⟨⟩⟩ := Option.ite_none_right_eq_some.1 found
      refine .inr ⟨_, Number.rational?_of_units value, ?_, rfl⟩
      rw [← not_le, Number.units_nonneg_iff, not_le]
      exact of_decide_eq_true negative

theorem upperBound_cases {metric : Metric} {n upper : Number} {field : Text} {violation : Violation} {x : ℚ}
    (bound : metric.upper? = some upper) (value : n.rational? = some x)
    (found : upperBound (some n) field upper = some violation) :
    ∃ limit ∈ metric.limit?, (limit : ℚ) < x ∧ violation = .outOfRange field upper := by
  obtain ⟨limit, same⟩ : ∃ limit, metric.limit? = some limit := by
    rw [← Option.ne_none_iff_exists', Ne, ← Metric.upper?_eq_none_iff, bound]
    exact Option.some_ne_none upper
  rw [Number.rational?_eq_map, Option.map_eq_some_iff] at value
  obtain ⟨units, given, rfl⟩ := value
  rw [upperBound, Number.less_of_units (Metric.units?_of_upper? bound same) given] at found
  obtain ⟨above, ⟨⟩⟩ := Option.ite_none_right_eq_some.1 found
  refine ⟨limit, same, ?_, rfl⟩
  rw [← not_le, Number.units_le_iff, not_le]
  exact of_decide_eq_true above

/-- What the check finds in one entry is the first objection to it. -/
theorem metricEntry_blames {entry : Supplied} {violation : Violation}
    (found : metricEntry entry.1 entry.2 = some violation) : Blames violation entry := by
  obtain ⟨name, value⟩ := entry
  by_cases known : ∃ metric : Metric, name = metric.name
  case neg =>
    have unknown := not_exists.1 known
    rw [metricEntry_unknown value unknown] at found
    cases found
    exact ⟨.unknownMetric, ⟨[], _, rfl, unknown, by simp⟩, rfl, rfl⟩
  obtain ⟨metric, rfl⟩ := known
  have named := @Objection.not_unknownMetric metric
  rw [metricEntry, Metric.ofName?_name] at found
  cases value with
  | none =>
      cases found
      exact ⟨.nullMetric, ⟨[.unknownMetric], _, rfl, rfl, by simp [named]⟩, rfl, rfl⟩
  | some n =>
      have given := @Objection.not_nullMetric metric.name n
      dsimp only at found
      -- The sign is looked at before the bound, so a number above the bound is known to be finite and not negative.
      cases low : nonNegative (some n) metric.name with
      | some first =>
          rw [low] at found
          cases found
          obtain ⟨infinite, rfl⟩ | ⟨x, valued, negative, rfl⟩ := nonNegative_cases low
          · exact ⟨.notFinite, ⟨[.unknownMetric, .nullMetric], _, rfl, ⟨n, rfl, infinite⟩, by simp [named, given]⟩,
              rfl, rfl⟩
          · have finite := @Objection.not_notFinite metric.name n x valued
            exact ⟨.negativeValue, ⟨[.unknownMetric, .nullMetric, .notFinite], _, rfl, ⟨n, x, rfl, valued, negative⟩,
              by simp [named, given, finite]⟩, rfl, rfl⟩
      | none =>
          obtain ⟨units, value, nonneg⟩ := nonNegative_eq_none.1 low
          have valued := Number.rational?_of_units value
          have finite := @Objection.not_notFinite metric.name n _ valued
          have positive := @Objection.not_negativeValue metric.name n _ valued (Number.units_nonneg_iff.2 nonneg)
          rw [low] at found
          obtain ⟨upper, bound, above⟩ := Option.bind_eq_some_iff.1 found
          obtain ⟨limit, same, larger, rfl⟩ := upperBound_cases bound valued above
          exact ⟨.outOfRange, ⟨[.unknownMetric, .nullMetric, .notFinite, .negativeValue], [], rfl,
            ⟨metric, limit, n, _, rfl, same, rfl, valued, larger⟩, by simp [named, given, finite, positive]⟩, rfl, rfl⟩

section Order

variable {entries reordered : List Supplied}

/-- An update is accepted exactly when it has an entry and all its entries are legal. -/
theorem metricsUpdate_eq_none_iff_legal (entries : List Supplied) :
    metricsUpdate entries = none ↔ entries ≠ [] ∧ ∀ entry ∈ entries, Legal entry := by
  rw [metricsUpdate_eq_none]
  simp only [metricEntry_eq_none_iff]

theorem accepted_of_perm (same : reordered.Perm entries) :
    metricsUpdate reordered = none ↔ metricsUpdate entries = none := by
  have empty : reordered = [] ↔ entries = [] := by
    rw [← List.length_eq_zero_iff, same.length_eq, List.length_eq_zero_iff]
  simp only [metricsUpdate_eq_none_iff_legal, ne_eq, empty, same.mem_iff]

/-- The answer to an update with an entry is what the check finds in its first entry that is not legal. -/
theorem metricsUpdate_first {violation : Violation} (nonempty : entries ≠ [])
    (found : metricsUpdate entries = some violation) :
    ∃ before entry after, entries = before ++ entry :: after ∧ (∀ earlier ∈ before, Legal earlier) ∧
      ¬Legal entry ∧ metricEntry entry.1 entry.2 = some violation := by
  rw [metricsUpdate, if_neg nonempty] at found
  obtain ⟨before, entry, after, split, wrong, passed⟩ := List.findSome?_eq_some_iff.1 found
  refine ⟨before, entry, after, split, ?_, ?_, wrong⟩
  · intro earlier member
    exact (metricEntry_eq_none_iff earlier).1 (passed earlier member)
  · intro legal
    have passes := (metricEntry_eq_none_iff entry).2 legal
    exact Option.some_ne_none violation (wrong.symm.trans passes)

/-- With one entry that is not legal the answer is about it, wherever it stands. -/
theorem metricsUpdate_of_unique {entry : Supplied} (member : entry ∈ entries) (illegal : ¬Legal entry)
    (unique : ∀ other ∈ entries, ¬Legal other → other = entry) :
    metricsUpdate entries = metricEntry entry.1 entry.2 := by
  have nonempty : entries ≠ [] := List.ne_nil_of_mem member
  cases answer : metricsUpdate entries with
  | none => exact (illegal (((metricsUpdate_eq_none_iff_legal entries).1 answer).2 entry member)).elim
  | some violation =>
      obtain ⟨before, first, after, rfl, _, wrong, found⟩ := metricsUpdate_first nonempty answer
      rw [← unique first (by simp) wrong, found]

end Order

/-- What the check of an update decides, for any list of entries. It passes exactly when there is an entry
and every entry gives a metric a value in range, as exact rationals; the order of the entries has no part in
this. Otherwise, unless there is no entry at all, its answer names the first entry that is not legal and the
first objection to that entry, all entries before it being legal. An update in which one entry is not legal
gets the same answer in every order. -/
theorem metricsUpdate_decides (entries : List Supplied) :
    (metricsUpdate entries = none ↔ entries ≠ [] ∧ ∀ entry ∈ entries, Legal entry) ∧
      (∀ reordered, reordered.Perm entries → (metricsUpdate reordered = none ↔ metricsUpdate entries = none)) ∧
      (entries ≠ [] → ∀ violation, metricsUpdate entries = some violation →
        ∃ before entry after, entries = before ++ entry :: after ∧ (∀ earlier ∈ before, Legal earlier) ∧
          ¬Legal entry ∧ Blames violation entry) ∧
      ((∃! entry, entry ∈ entries ∧ ¬Legal entry) →
        ∀ reordered, reordered.Perm entries → metricsUpdate reordered = metricsUpdate entries) := by
  refine ⟨metricsUpdate_eq_none_iff_legal entries, fun reordered => accepted_of_perm, ?_, ?_⟩
  · intro nonempty violation answer
    obtain ⟨before, entry, after, split, passed, illegal, found⟩ := metricsUpdate_first nonempty answer
    exact ⟨before, entry, after, split, passed, illegal, metricEntry_blames found⟩
  · rintro ⟨entry, ⟨member, illegal⟩, unique⟩ reordered same
    rw [metricsUpdate_of_unique member illegal fun other found wrong => unique other ⟨found, wrong⟩,
      metricsUpdate_of_unique (same.mem_iff.2 member) illegal
        fun other found wrong => unique other ⟨same.mem_iff.1 found, wrong⟩]

end Validation

namespace Sample

/-- A score at its bound, a count just above it and a volume that is larger than every double. -/
def update : List Validation.Supplied :=
  [("trust_score", some (.double .one)), ("total_transactions", some (.int (maxCount + 1))),
    ("total_volume_usd", some (.int (10 ^ 400)))]

/-- The only entry of the update that is not legal. -/
def excess : Validation.Supplied := ("total_transactions", some (.int (maxCount + 1)))

def excessive : Violation := .outOfRange "total_transactions" (.int maxCount)

theorem not_legal_excess : ¬Validation.Legal excess := by
  rw [← Validation.metricEntry_eq_none_iff]
  decide +kernel

theorem eq_excess_of_not_legal : ∀ entry ∈ update, ¬Validation.Legal entry → entry = excess := by
  simp only [← Validation.metricEntry_eq_none_iff]
  decide +kernel

end Sample

open Sample in
/-- The update is refused for its count, and in reverse order too. -/
theorem Validation.metricsUpdate_decides_excess :
    update ≠ [] ∧ metricsUpdate update = some excessive ∧ (∃! entry, entry ∈ update ∧ ¬Legal entry) ∧
      update.reverse.Perm update ∧ metricsUpdate update.reverse = metricsUpdate update ∧
      ∃ before entry after, update = before ++ entry :: after ∧ (∀ earlier ∈ before, Legal earlier) ∧
        ¬Legal entry ∧ Blames excessive entry := by
  have nonempty : update ≠ [] := List.cons_ne_nil _ _
  have refused : metricsUpdate update = some excessive := by decide +kernel
  have unique : ∃! entry, entry ∈ update ∧ ¬Legal entry := by
    refine ⟨excess, ⟨by decide +kernel, not_legal_excess⟩, ?_⟩
    rintro entry ⟨member, illegal⟩
    exact eq_excess_of_not_legal entry member illegal
  have reversed := List.reverse_perm update
  obtain ⟨_, _, blames, anywhere⟩ := metricsUpdate_decides update
  exact ⟨nonempty, refused, unique, reversed, anywhere unique _ reversed, blames nonempty _ refused⟩

end AnchorRegistry
