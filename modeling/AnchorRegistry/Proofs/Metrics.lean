import AnchorRegistry.Row
import AnchorRegistry.Proofs.Validation

/-! Metrics by name. `value?` reads one metric of a row as the number it is; a merge and the store act on each
metric by itself. The store forgets the sign of a zero and nothing else, so what comes back is the same
number. -/

namespace AnchorRegistry

/-- The number as the store gives it back. -/
def Number.stored : Number → Number
  | int n => int n
  | double d => double d.dropZeroSign

namespace Metrics

/-- One metric of a row; the nullable ones can be none. -/
def value? (m : Metrics) : Metric → Option Number
  | .trustScore => m.trustScore.map .double
  | .reliabilityScore => m.reliabilityScore.map .double
  | .totalTransactions => some (.int m.totalTransactions)
  | .successfulTransactions => some (.int m.successfulTransactions)
  | .failedTransactions => some (.int m.failedTransactions)
  | .totalVolumeUsd => some (.double m.totalVolumeUsd)
  | .avgSettlementTimeMs => m.avgSettlementTimeMs.map .int

/-- The metrics of a new anchor read back as they are. -/
theorem stored_initial : ({} : Metrics).stored = {} := by decide +kernel

theorem value?_stored (m : Metrics) (metric : Metric) :
    m.stored.value? metric = (m.value? metric).map Number.stored := by
  cases metric <;> simp only [value?, stored, Option.map_map, Option.map_some] <;> rfl

theorem map_orElse {α β : Type} (f : α → β) (given old : Option α) :
    (given <|> old).map f = (given.map f <|> old.map f) := by
  cases given <;> rfl

theorem some_getD {α : Type} (f : α → Number) (entry : Payload.Entry α) (old : α) :
    some (f (entry.getD old)) = (entry.value?.map f <|> some (f old)) := by
  cases entry <;> rfl

/-- After a merge a metric is the one that was given, or else the old one. -/
theorem value?_merge (m : Metrics) (p : Payload.MetricsUpdate) (metric : Metric) :
    (m.merge p).value? metric = ((p.entry metric).value? <|> m.value? metric) := by
  cases metric <;>
    simp only [value?, merge, Payload.MetricsUpdate.entry, Payload.Entry.value?_map, map_orElse, some_getD]

end Metrics

/-- An update has no value for a metric that it says nothing of. -/
theorem Payload.MetricsUpdate.value?_entry_of_not_supplies {p : Payload.MetricsUpdate} {metric : Metric}
    (untouched : p.supplies metric = false) : (p.entry metric).value? = none := by
  cases value : (p.entry metric).value? with
  | none => rfl
  | some n =>
      rw [supplies, Entry.isSupplied_of_value? value] at untouched
      cases untouched

end AnchorRegistry
