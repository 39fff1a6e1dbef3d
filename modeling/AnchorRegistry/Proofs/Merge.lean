import AnchorRegistry.Proofs.Identifier
import AnchorRegistry.Proofs.Lookup

/-! Updates are merges in which the last writer wins. Metric by metric a merge takes the given value or keeps
the old one, so two merges come to the merge of one overridden payload, and nothing else of a row is touched but
the time of its last write. Whether an update is accepted depends on the row through the totals alone: a payload
that gives all three counts decides by itself, one that gives none keeps totals that are consistent already, and
of two updates in a row only the totals that the second leaves matter for the one that overrides. -/

namespace AnchorRegistry

open Repository (Invocation Rows anchorRow updatedRow)
open Http (Circumstances)

/-- The three metrics that the totals are made of. -/
def Metric.counts : List Metric := [totalTransactions, successfulTransactions, failedTransactions]

namespace Payload

/-- What was said later, or else what was said before. -/
def Entry.overriddenBy {α : Type} (earlier later : Entry α) : Entry α :=
  match later with
  | absent => earlier
  | later => later

namespace MetricsUpdate

/-- A count that is supplied is given. -/
theorem exists_count (p : MetricsUpdate) (valid : p.violation = none) {metric : Metric} {column : Entry Int}
    (same : p.entry metric = column.map .int) (supplied : p.supplies metric) : ∃ n, column.value? = some n := by
  obtain ⟨n, value, -⟩ := (accepted_iff.1 valid).2 metric supplied
  rw [same, Entry.value?_map] at value
  obtain ⟨count, given, -⟩ := Option.map_eq_some_iff.1 value
  exact ⟨count, given⟩

/-- One payload with what either of two supplies, the later one before the earlier. -/
def overriddenBy (p q : MetricsUpdate) : MetricsUpdate where
  trustScore := p.trustScore.overriddenBy q.trustScore
  reliabilityScore := p.reliabilityScore.overriddenBy q.reliabilityScore
  totalTransactions := p.totalTransactions.overriddenBy q.totalTransactions
  successfulTransactions := p.successfulTransactions.overriddenBy q.successfulTransactions
  failedTransactions := p.failedTransactions.overriddenBy q.failedTransactions
  totalVolumeUsd := p.totalVolumeUsd.overriddenBy q.totalVolumeUsd
  avgSettlementTimeMs := p.avgSettlementTimeMs.overriddenBy q.avgSettlementTimeMs

/-- No metric is supplied by both. -/
def Disjoint (p q : MetricsUpdate) : Prop := ∀ metric, ¬(p.supplies metric ∧ q.supplies metric)

/-- The counts that are given do not contradict each other. -/
def Consistent (p : MetricsUpdate) : Prop :=
  ∀ total ∈ p.totalTransactions.value?, ∀ successful ∈ p.successfulTransactions.value?,
    ∀ failed ∈ p.failedTransactions.value?, successful + failed ≤ total

theorem entry_overriddenBy (p q : MetricsUpdate) (metric : Metric) :
    (p.overriddenBy q).entry metric = (p.entry metric).overriddenBy (q.entry metric) := by
  have map_overriddenBy {α : Type} (f : α → Number) (earlier later : Entry α) :
      (earlier.overriddenBy later).map f = (earlier.map f).overriddenBy (later.map f) := by
    cases later <;> rfl
  cases metric <;> exact map_overriddenBy _ _ _

theorem supplies_overriddenBy (p q : MetricsUpdate) (metric : Metric) :
    (p.overriddenBy q).supplies metric = (p.supplies metric || q.supplies metric) := by
  unfold supplies
  rw [entry_overriddenBy]
  cases q.entry metric with
  | absent => exact (Bool.or_false _).symm
  | null | given value => exact (Bool.or_true _).symm

/-- An accepted payload supplies no metric without a value. -/
theorem entry_cases {p : MetricsUpdate} (valid : p.violation = none) (metric : Metric) :
    p.entry metric = .absent ∨ ∃ n, p.entry metric = .given n ∧ metric.Accepts n := by
  have accepted := (accepted_iff.1 valid).2 metric
  cases said : p.entry metric with
  | absent => exact .inl rfl
  | null =>
      obtain ⟨n, value, -⟩ := accepted (by rw [supplies, said]; rfl)
      rw [said] at value
      cases value
  | given n =>
      obtain ⟨m, value, accepts⟩ := accepted (by rw [supplies, said]; rfl)
      rw [said] at value
      cases value
      exact .inr ⟨n, rfl, accepts⟩

theorem value?_overriddenBy {q : MetricsUpdate} (valid : q.violation = none) (p : MetricsUpdate) (metric : Metric) :
    ((p.overriddenBy q).entry metric).value? = ((q.entry metric).value? <|> (p.entry metric).value?) := by
  rw [entry_overriddenBy]
  rcases entry_cases valid metric with absent | ⟨n, given, -⟩
  · rw [absent]
    rfl
  · rw [given]
    rfl

theorem violation_overriddenBy {p q : MetricsUpdate} (first : p.violation = none) (second : q.violation = none) :
    (p.overriddenBy q).violation = none := by
  refine accepted_iff.2 ⟨?_, fun metric supplied => ?_⟩
  · obtain ⟨metric, supplied⟩ := (accepted_iff.1 first).1
    refine ⟨metric, ?_⟩
    rw [supplies_overriddenBy, supplied, Bool.true_or]
  · rw [supplies, entry_overriddenBy] at supplied
    rw [entry_overriddenBy]
    rcases entry_cases second metric with absent | ⟨n, given, accepts⟩
    · rw [absent] at supplied ⊢
      exact (accepted_iff.1 first).2 metric supplied
    · rw [given]
      exact ⟨n, rfl, accepts⟩

end MetricsUpdate

end Payload

namespace Metrics

open Payload

/-- Metrics are their values by name. -/
theorem ext_value? {m n : Metrics} (same : ∀ metric, m.value? metric = n.value? metric) : m = n := by
  have double {x y : Double} (equal : Number.double x = .double y) : x = y := Number.double.inj equal
  have int {x y : Int} (equal : Number.int x = .int y) : x = y := Number.int.inj equal
  have trustScore := Option.map_injective @double (same .trustScore)
  have reliabilityScore := Option.map_injective @double (same .reliabilityScore)
  have totalTransactions := int (Option.some.inj (same .totalTransactions))
  have successfulTransactions := int (Option.some.inj (same .successfulTransactions))
  have failedTransactions := int (Option.some.inj (same .failedTransactions))
  have totalVolumeUsd := double (Option.some.inj (same .totalVolumeUsd))
  have avgSettlementTimeMs := Option.map_injective @int (same .avgSettlementTimeMs)
  cases m
  cases n
  rw [Metrics.mk.injEq]
  exact ⟨trustScore, reliabilityScore, totalTransactions, successfulTransactions, failedTransactions, totalVolumeUsd,
    avgSettlementTimeMs⟩

theorem merge_merge (m : Metrics) (p : MetricsUpdate) {q : MetricsUpdate} (valid : q.violation = none) :
    (m.merge p).merge q = m.merge (p.overriddenBy q) := by
  apply ext_value?
  intro metric
  rw [value?_merge, value?_merge, value?_merge, MetricsUpdate.value?_overriddenBy valid]
  cases (q.entry metric).value? <;> rfl

theorem merge_self (m : Metrics) (p : MetricsUpdate) : (m.merge p).merge p = m.merge p := by
  apply ext_value?
  intro metric
  rw [value?_merge, value?_merge]
  cases (p.entry metric).value? <;> rfl

/-- Of two payloads that supply different metrics either may come first. -/
theorem merge_comm {p q : MetricsUpdate} (disjoint : p.Disjoint q) (m : Metrics) :
    (m.merge p).merge q = (m.merge q).merge p := by
  apply ext_value?
  intro metric
  rw [value?_merge, value?_merge, value?_merge, value?_merge]
  by_cases supplied : p.supplies metric
  · have other : q.supplies metric = false := by
      rw [Bool.eq_false_iff]
      exact fun both => disjoint metric ⟨supplied, both⟩
    rw [MetricsUpdate.value?_entry_of_not_supplies other]
    rfl
  · rw [MetricsUpdate.value?_entry_of_not_supplies (Bool.eq_false_iff.2 supplied)]
    cases (q.entry metric).value? <;> rfl

/-- The store forgets the sign of a zero, before a merge or after it. -/
theorem stored_merge (m : Metrics) (p : MetricsUpdate) : (m.stored.merge p).stored = (m.merge p).stored := by
  have forgotten (n : Number) : n.stored.stored = n.stored := by
    cases n with
    | int n => rfl
    | double d => exact congrArg Number.double d.dropZeroSign_dropZeroSign
  apply ext_value?
  intro metric
  rw [value?_stored, value?_stored, value?_merge, value?_merge, value?_stored]
  cases (p.entry metric).value? with
  | some n => rfl
  | none =>
      cases m.value? metric with
      | none => rfl
      | some n => exact congrArg some (forgotten n)

/-- The totals are whole numbers, which the store gives back as they are. -/
theorem violation_stored (m : Metrics) : m.stored.violation = m.violation := rfl

theorem violation_stored_merge (m : Metrics) (p : MetricsUpdate) :
    (m.stored.merge p).violation = (m.merge p).violation := by
  rw [← violation_stored, stored_merge, violation_stored]

/-- Where a payload gives all three counts or none of them, what it leaves is consistent if it is so itself. -/
theorem violation_merge {p : MetricsUpdate} (valid : p.violation = none)
    (whole : (∀ metric ∈ Metric.counts, p.supplies metric) ∨ ∀ metric ∈ Metric.counts, ¬p.supplies metric)
    {m : Metrics} (old : m.violation = none) : (m.merge p).violation = none ↔ p.Consistent := by
  have new : (m.merge p).violation = none ↔ p.successfulTransactions.getD m.successfulTransactions +
      p.failedTransactions.getD m.failedTransactions ≤ p.totalTransactions.getD m.totalTransactions :=
    Validation.transactionTotals_eq_none
  rw [new]
  unfold MetricsUpdate.Consistent Entry.getD
  rcases whole with given | silent
  · obtain ⟨total, total_given⟩ := p.exists_count valid rfl (given .totalTransactions (by decide))
    obtain ⟨successful, successful_given⟩ := p.exists_count valid rfl (given .successfulTransactions (by decide))
    obtain ⟨failed, failed_given⟩ := p.exists_count valid rfl (given .failedTransactions (by decide))
    simp [total_given, successful_given, failed_given]
  · have nothing (metric : Metric) (count : metric ∈ Metric.counts) {column : Entry Int}
        (same : p.entry metric = column.map .int) : column.value? = none := by
      have unsaid := MetricsUpdate.value?_entry_of_not_supplies (Bool.eq_false_iff.2 (silent metric count))
      rwa [same, Entry.value?_map, Option.map_eq_none_iff] at unsaid
    have total := nothing .totalTransactions (by decide) rfl
    have successful := nothing .successfulTransactions (by decide) rfl
    have failed := nothing .failedTransactions (by decide) rfl
    have consistent := Validation.transactionTotals_eq_none.1 old
    simp [total, successful, failed, consistent]

end Metrics

namespace Store

/-- The store with the anchor of an identifier changed. -/
def alter (id : EntityId) (f : Anchor → Anchor) (store : Store) : Store :=
  { store with anchorTable := store.anchorTable.map fun rows => rows.map fun a => if a.id = id then f a else a }

theorem anchors_alter (id : EntityId) (f : Anchor → Anchor) (store : Store) :
    (store.alter id f).anchors = store.anchors.map fun a => if a.id = id then f a else a := by
  unfold alter anchors
  cases store.anchorTable <;> rfl

theorem alter_congr {id : EntityId} {f g : Anchor → Anchor} {store : Store}
    (same : ∀ a ∈ store.anchors, a.id = id → f a = g a) : store.alter id f = store.alter id g := by
  unfold alter
  cases table : store.anchorTable with
  | none => rfl
  | some rows =>
      rw [anchors_of_table table] at same
      have rows_same : (rows.map fun a => if a.id = id then f a else a) =
          rows.map fun a => if a.id = id then g a else a := by
        apply List.map_congr_left
        intro a member
        split
        · rename_i named
          exact same a member named
        · rfl
      rw [Option.map_some, Option.map_some, rows_same]

theorem alter_alter {id : EntityId} {f : Anchor → Anchor} (keeps : ∀ a, (f a).id = a.id) (g : Anchor → Anchor)
    (store : Store) : (store.alter id f).alter id g = store.alter id fun a => g (f a) := by
  unfold alter
  cases store.anchorTable with
  | none => rfl
  | some rows =>
      simp only [Option.map_some, List.map_map]
      congr 3
      funext a
      rw [Function.comp_apply]
      by_cases named : a.id = id
      · rw [if_pos named, if_pos ((keeps a).trans named), if_pos named]
      · rw [if_neg named, if_neg named, if_neg named]

end Store

namespace Anchor

/-- The anchor as it reads back once it was last written at this time. -/
def touch (now : Instant) (a : Anchor) : Anchor := { a with updatedAt := (Timestamp.ofClock now).stored }

/-- The anchor as it reads back once these metrics were written at this time. -/
def remeasure (metrics : Metrics) (now : Instant) (a : Anchor) : Anchor := { a.touch now with metrics }

/-- What is done to a row after it was remeasured is done to the whole change. -/
theorem alter_remeasure {id : EntityId} (metrics : Metrics) (now : Instant) (f : Anchor → Anchor) (store : Store) :
    (store.alter id (remeasure metrics now)).alter id f = store.alter id fun a => f (a.remeasure metrics now) := by
  have keeps (a : Anchor) : (a.remeasure metrics now).id = a.id := rfl
  exact Store.alter_alter keeps f store

theorem alter_touch {id : EntityId} (metrics : Metrics) (now later : Instant) (store : Store) :
    (store.alter id (remeasure metrics now)).alter id (touch later) = store.alter id (remeasure metrics later) :=
  alter_remeasure metrics now (touch later) store

theorem Settled.stored_updatedRow {a : Anchor} (settled : a.Settled) (p : Payload.MetricsUpdate) (now : Instant) :
    (updatedRow a p now).stored = a.remeasure (a.metrics.merge p).stored now := by
  have created : a.createdAt.stored = a.createdAt := congrArg Anchor.createdAt settled.stored
  simp only [Anchor.stored, updatedRow, remeasure, touch, created]

end Anchor

/-- The anchor was there, and an update of it was accepted and written. -/
structure Store.Merged (before : Store) (anchor : Anchor) (p : Payload.MetricsUpdate) (now : Instant) (after : Store) :
    Prop where
  member : anchor ∈ before.anchors
  valid : p.violation = none
  consistent : (anchor.metrics.merge p).violation = none
  written : after = before.alter anchor.id (Anchor.remeasure (anchor.metrics.merge p).stored now)

/-- An update that is written is a merge into the one row with its identifier. -/
theorem Store.merged {before after : Store} {anchor : Anchor} {p : Payload.MetricsUpdate} {now : Instant}
    (legal : before.Legal) (settled : before.Settled) (member : anchor ∈ before.anchors) (valid : p.violation = none)
    (consistent : (anchor.metrics.merge p).violation = none)
    (written : before.updateAnchor (updatedRow anchor p now) = .ok after) : before.Merged anchor p now after := by
  refine ⟨member, valid, consistent, ?_⟩
  obtain ⟨rows, table, rfl⟩ := updateAnchor_eq_ok.1 written
  have sole : ∀ a ∈ before.anchors, a.id = anchor.id → (updatedRow anchor p now).stored =
      a.remeasure (anchor.metrics.merge p).stored now := by
    intro a stored same
    rw [List.inj_on_of_nodup_map legal.anchorIds stored member same]
    exact (settled.anchors anchor member).stored_updatedRow p now
  rw [← alter_congr (f := fun _ => (updatedRow anchor p now).stored) sole]
  unfold alter
  rw [table]
  rfl

namespace Store.Merged

variable {before after last : Store} {anchor next : Anchor} {p q : Payload.MetricsUpdate} {now later : Instant}

theorem mem_after (merged : before.Merged anchor p now after) :
    anchor.remeasure (anchor.metrics.merge p).stored now ∈ after.anchors := by
  rw [merged.written, anchors_alter]
  exact List.mem_map.2 ⟨anchor, merged.member, if_pos rfl⟩

/-- Only one anchor of a legal store has an identifier. -/
theorem sole {other : Anchor} {after' : Store} (merged : before.Merged anchor p now after) (legal : before.Legal)
    (merged' : before.Merged other q later after') (same : anchor.id = other.id) : anchor = other :=
  List.inj_on_of_nodup_map legal.anchorIds merged.member merged'.member same

/-- The next update of the anchor meets what this one left. -/
theorem eq_next (merged : before.Merged anchor p now after) (legal : after.Legal)
    (again : after.Merged next q later last) (same : next.id = anchor.id) :
    next = anchor.remeasure (anchor.metrics.merge p).stored now :=
  List.inj_on_of_nodup_map legal.anchorIds again.member merged.mem_after same

/-- Two updates leave what the second made of what the first made of the row. -/
theorem written_twice (merged : before.Merged anchor p now after) (legal : after.Legal)
    (again : after.Merged next q later last) (same : next.id = anchor.id) :
    last = before.alter anchor.id (Anchor.remeasure ((anchor.metrics.merge p).merge q).stored later) := by
  obtain rfl := merged.eq_next legal again same
  have metrics : (anchor.remeasure (anchor.metrics.merge p).stored now).metrics = (anchor.metrics.merge p).stored := rfl
  rw [again.written, metrics, Metrics.stored_merge, merged.written]
  exact Anchor.alter_remeasure _ now _ before

end Store.Merged

namespace Repository.Invocation

/-- The connection that a call leaves, if it returns. -/
def leaves? (invocation : Invocation) (c : Circumstances) (connection : Connection) : Option Connection :=
  match invocation.run c connection with
  | (.ok _, after) => some after
  | (.error _, _) => none

variable {c : Circumstances} {connection after : Connection} {raw : Text} {p : Payload.MetricsUpdate} {anchor : Anchor}

theorem leaves?_eq_some {invocation : Invocation} :
    invocation.leaves? c connection = some after ↔ ∃ rows, invocation.run c connection = (.ok rows, after) := by
  unfold leaves?
  split
  · rename_i rows left ran
    simp [ran]
  · rename_i failure left ran
    simp [ran]

theorem reachable_of_leaves? {invocation : Invocation} (reachable : Reachable connection)
    (left : invocation.leaves? c connection = some after) : Reachable after := by
  obtain ⟨rows, ran⟩ := leaves?_eq_some.1 left
  have called := reachable.call c invocation
  rwa [ran] at called

/-- An update that returns was accepted for the anchor that it names. -/
theorem merged_of_leaves? (reachable : Reachable connection)
    (left : (updateAnchorMetrics raw p).leaves? c connection = some after) :
    ∃ anchor, EntityId.parse? raw = some anchor.id ∧ connection.store.Merged anchor p c.now after.store := by
  obtain ⟨rows, ran⟩ := leaves?_eq_some.1 left
  have returns := run_ok ran
  generalize after.store = store at returns ⊢
  cases returns with
  | @updateAnchorMetrics _ _ anchor _ valid old consistent written =>
      refine ⟨anchor, old.mem.2, ?_⟩
      exact Store.merged reachable.legal reachable.settled old.mem.1 valid consistent (Session.eq_ok_of_attempt written)

/-- Without a fault an update of a stored anchor returns where its checks find nothing. -/
theorem exists_leaves?_update (reachable : Reachable connection) (unfaulted : c.fault = none)
    (member : anchor ∈ connection.store.anchors) (read : EntityId.parse? raw = some anchor.id)
    (valid : p.violation = none) (consistent : (anchor.metrics.merge p).violation = none) :
    ∃ after, (updateAnchorMetrics raw p).leaves? c connection = some after := by
  cases ran : (updateAnchorMetrics raw p).run c connection with
  | mk result after =>
      cases result with
      | ok rows => exact ⟨after, leaves?_eq_some.2 ⟨rows, ran⟩⟩
      | error failure =>
          have fails := (run_error ran).2
          have sole {old : Anchor} (found : Found raw (c.session connection) old) : old = anchor := by
            have same : old.id = anchor.id := Option.some.inj (found.mem.2.symm.trans read)
            exact List.inj_on_of_nodup_map reachable.legal.anchorIds found.mem.1 member same
          cases fails with
          | refused found => exact absurd (valid.symm.trans found) nofun
          | lookup _ fails => exact absurd read (fails.unnamed unfaulted reachable.legal anchor member)
          | inconsistent _ old found =>
              obtain rfl := sole old
              exact absurd (consistent.symm.trans found) nofun
          | broken _ _ _ met =>
              have table : (c.session connection).store.anchorTable = some connection.store.anchors :=
                Store.anchorTable_of_mem member
              rw [merging, Session.attempt_unfaulted unfaulted, Store.updateAnchor_eq_ok.2 ⟨_, table, rfl⟩] at met
              cases met

section Laws

variable {d e : Circumstances} {once last : Connection} {q : Payload.MetricsUpdate} {again : Text}

/-- The metrics with which an update finds the anchor that one before it left. -/
theorem consistent_of_leaves? (reachable : Reachable connection)
    (first : (updateAnchorMetrics raw p).leaves? c connection = some once)
    (second : (updateAnchorMetrics again q).leaves? d once = some last)
    (same : EntityId.parse? again = EntityId.parse? raw) :
    ∃ anchor, EntityId.parse? raw = some anchor.id ∧ connection.store.Merged anchor p c.now once.store ∧
      q.violation = none ∧ ((anchor.metrics.merge p).merge q).violation = none ∧
      last.store = connection.store.alter anchor.id
        (Anchor.remeasure ((anchor.metrics.merge p).merge q).stored d.now) := by
  obtain ⟨anchor, read, merged⟩ := merged_of_leaves? reachable first
  have onward := reachable_of_leaves? reachable first
  obtain ⟨next, read', merged'⟩ := merged_of_leaves? onward second
  have sameId : next.id = anchor.id := by
    rw [same, read, Option.some.injEq] at read'
    exact read'.symm
  have written := merged.written_twice onward.legal merged' sameId
  have consistent := merged'.consistent
  rw [merged.eq_next onward.legal merged' sameId] at consistent
  refine ⟨anchor, read, merged, merged'.valid, ?_, written⟩
  rw [← Metrics.violation_stored_merge]
  exact consistent

theorem exists_leaves?_again (reachable : Reachable connection)
    (first : (updateAnchorMetrics raw p).leaves? c connection = some once)
    (same : EntityId.parse? again = EntityId.parse? raw) (unfaulted : d.fault = none) :
    ∃ twice, (updateAnchorMetrics again p).leaves? d once = some twice ∧
      ∀ id, EntityId.parse? raw = some id → twice.store = once.store.alter id (Anchor.touch d.now) := by
  obtain ⟨anchor, read, merged⟩ := merged_of_leaves? reachable first
  have consistent : ((anchor.metrics.merge p).stored.merge p).violation = none := by
    rw [Metrics.violation_stored_merge, Metrics.merge_self]
    exact merged.consistent
  obtain ⟨twice, second⟩ := exists_leaves?_update (reachable_of_leaves? reachable first) unfaulted merged.mem_after
    (same.trans read) merged.valid consistent
  refine ⟨twice, second, fun id named => ?_⟩
  obtain ⟨anchor', read', merged', -, -, written⟩ := consistent_of_leaves? reachable first second same
  obtain rfl : anchor.id = id := Option.some.inj (read.symm.trans named)
  obtain rfl : anchor' = anchor := merged'.sole reachable.legal merged (Option.some.inj (read'.symm.trans read))
  rw [written, Metrics.merge_self, merged.written, Anchor.alter_touch]

theorem exists_leaves?_overriddenBy (reachable : Reachable connection)
    (first : (updateAnchorMetrics raw p).leaves? c connection = some once)
    (second : (updateAnchorMetrics again q).leaves? d once = some last)
    (same : EntityId.parse? again = EntityId.parse? raw) (unfaulted : e.fault = none) (sameTime : e.now = d.now) :
    ∃ direct, (updateAnchorMetrics raw (p.overriddenBy q)).leaves? e connection = some direct ∧
      direct.store = last.store := by
  obtain ⟨anchor, read, merged, valid, consistent, written⟩ := consistent_of_leaves? reachable first second same
  rw [Metrics.merge_merge _ _ valid] at consistent written
  obtain ⟨direct, left⟩ := exists_leaves?_update reachable unfaulted merged.member read
    (Payload.MetricsUpdate.violation_overriddenBy merged.valid valid) consistent
  refine ⟨direct, left, ?_⟩
  obtain ⟨anchor', read', merged'⟩ := merged_of_leaves? reachable left
  obtain rfl : anchor' = anchor := merged'.sole reachable.legal merged (Option.some.inj (read'.symm.trans read))
  rw [merged'.written, written, sameTime]

/-- Without a fault an update that gives all three counts or none of them is accepted or refused whatever row
it meets. -/
theorem exists_leaves?_iff (reachable : Reachable connection) (member : anchor ∈ connection.store.anchors)
    (read : EntityId.parse? raw = some anchor.id) (unfaulted : c.fault = none)
    (whole : (∀ metric ∈ Metric.counts, p.supplies metric) ∨ ∀ metric ∈ Metric.counts, ¬p.supplies metric) :
    (∃ after, (updateAnchorMetrics raw p).leaves? c connection = some after) ↔ p.violation = none ∧ p.Consistent := by
  have totals {a : Anchor} (stored : a ∈ connection.store.anchors) : a.metrics.violation = none :=
    Validation.transactionTotals_eq_none.2 (reachable.legal.anchors a stored).metrics.totals
  constructor
  · rintro ⟨after, left⟩
    obtain ⟨a, -, merged⟩ := merged_of_leaves? reachable left
    exact ⟨merged.valid, (Metrics.violation_merge merged.valid whole (totals merged.member)).1 merged.consistent⟩
  · rintro ⟨valid, consistent⟩
    exact exists_leaves?_update reachable unfaulted member read valid
      ((Metrics.violation_merge valid whole (totals member)).2 consistent)

/-- Updates of one anchor, in whatever spelling it is named, are merges in which the last writer wins: an update
that was accepted is accepted again and then changes the time of the last write alone; of two that were accepted
one after the other, the first overridden by the second is accepted in their place and at the time of the second
leaves the same store; two that supply different metrics leave the same in either order, but for the time of the
last write; and whether an update is accepted that gives all three counts or none depends on the update alone. -/
theorem updates_merge (reachable : Reachable connection) (member : anchor ∈ connection.store.anchors)
    (read : EntityId.parse? raw = some anchor.id) (same : EntityId.parse? again = some anchor.id)
    (p q : Payload.MetricsUpdate) :
    (∀ c once, (updateAnchorMetrics raw p).leaves? c connection = some once →
      ∀ d : Circumstances, d.fault = none → ∃ twice, (updateAnchorMetrics again p).leaves? d once = some twice ∧
        twice.store = once.store.alter anchor.id (Anchor.touch d.now)) ∧
    (∀ c once, (updateAnchorMetrics raw p).leaves? c connection = some once →
      ∀ d last, (updateAnchorMetrics again q).leaves? d once = some last →
      ∀ e : Circumstances, e.fault = none → e.now = d.now → ∃ direct,
        (updateAnchorMetrics raw (p.overriddenBy q)).leaves? e connection = some direct ∧
          direct.store = last.store) ∧
    (p.Disjoint q → ∀ c once, (updateAnchorMetrics raw p).leaves? c connection = some once →
      ∀ d last, (updateAnchorMetrics again q).leaves? d once = some last →
      ∀ c' once', (updateAnchorMetrics again q).leaves? c' connection = some once' →
      ∀ d' last', (updateAnchorMetrics raw p).leaves? d' once' = some last' →
      ∀ now, last.store.alter anchor.id (Anchor.touch now) = last'.store.alter anchor.id (Anchor.touch now)) ∧
    ((∀ metric ∈ Metric.counts, p.supplies metric) ∨ (∀ metric ∈ Metric.counts, ¬p.supplies metric) →
      ∀ c : Circumstances, c.fault = none →
      ((∃ after, (updateAnchorMetrics raw p).leaves? c connection = some after) ↔
        p.violation = none ∧ p.Consistent)) := by
  refine ⟨?_, ?_, ?_, ?_⟩
  · intro c once first d unfaulted
    obtain ⟨twice, second, touched⟩ := exists_leaves?_again reachable first (same.trans read.symm) unfaulted
    exact ⟨twice, second, touched anchor.id read⟩
  · intro c once first d last second e unfaulted sameTime
    exact exists_leaves?_overriddenBy reachable first second (same.trans read.symm) unfaulted sameTime
  · intro disjoint c once first d last second c' once' first' d' last' second' now
    obtain ⟨a, named, merged, -, -, written⟩ :=
      consistent_of_leaves? reachable first second (same.trans read.symm)
    obtain ⟨b, named', merged', -, -, written'⟩ :=
      consistent_of_leaves? reachable first' second' (read.trans same.symm)
    rw [read, Option.some.injEq] at named
    rw [same, Option.some.injEq] at named'
    obtain rfl : a = b := merged.sole reachable.legal merged' (named.symm.trans named')
    rw [← named] at written written'
    calc last.store.alter anchor.id (Anchor.touch now)
        = connection.store.alter anchor.id (Anchor.remeasure ((a.metrics.merge p).merge q).stored now) := by
          rw [written, Anchor.alter_touch]
      _ = connection.store.alter anchor.id (Anchor.remeasure ((a.metrics.merge q).merge p).stored now) := by
          rw [Metrics.merge_comm disjoint]
      _ = last'.store.alter anchor.id (Anchor.touch now) := by
          rw [written', Anchor.alter_touch]
  · intro whole c unfaulted
    exact exists_leaves?_iff reachable member read unfaulted whole

end Laws

end Repository.Invocation

namespace Sample

/-- Three counts that do not contradict each other. -/
def counts : Payload.MetricsUpdate where
  trustScore := .absent
  reliabilityScore := .absent
  totalTransactions := .given 10
  successfulTransactions := .given 8
  failedTransactions := .given 2
  totalVolumeUsd := .absent
  avgSettlementTimeMs := .absent

end Sample

/-- The anchor of the sample takes its counts, and takes them a second time. -/
theorem Repository.Invocation.updates_merge_counts :
    ∃ once twice, (updateAnchorMetrics Sample.anchorId.toText Sample.counts).leaves? Sample.circumstances
        Sample.registered = some once ∧
      (updateAnchorMetrics Sample.anchorId.toText Sample.counts).leaves? Sample.circumstances once = some twice ∧
      twice.store = once.store.alter Sample.anchorId (Anchor.touch ⟨5⟩) := by
  have member : (anchorRow Sample.profile Sample.anchorId ⟨5⟩).stored ∈ Sample.registered.store.anchors := by
    decide +kernel
  have read : EntityId.parse? Sample.anchorId.toText = some (anchorRow Sample.profile Sample.anchorId ⟨5⟩).stored.id :=
    Sample.anchorId.parse?_toText
  obtain ⟨again, -, -, whole⟩ :=
    updates_merge Sample.reachable_registered member read read Sample.counts Sample.counts
  have valid : Sample.counts.violation = none := by decide +kernel
  have consistent : Sample.counts.Consistent := by
    rintro _ ⟨⟩ _ ⟨⟩ _ ⟨⟩
    decide
  obtain ⟨once, first⟩ := (whole (.inl (by decide)) Sample.circumstances rfl).2 ⟨valid, consistent⟩
  obtain ⟨twice, second, touched⟩ := again _ once first Sample.circumstances rfl
  exact ⟨once, twice, first, second, touched⟩

end AnchorRegistry
