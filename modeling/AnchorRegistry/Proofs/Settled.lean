import AnchorRegistry.Proofs.Metrics
import AnchorRegistry.Proofs.Run

/-! What the store itself does to rows. A row that is stored reads back as it is, and every text in it has an
encoding; a table that is there stays there. Both follow from the writes alone, whatever was checked before. -/

namespace AnchorRegistry

/-- The row reads back as it is, and its texts can be encoded. -/
structure Anchor.Settled (a : Anchor) : Prop where
  stored : a.stored = a
  storable : ∀ t ∈ a.texts, t.Storable

structure Asset.Settled (a : Asset) : Prop where
  stored : a.stored = a
  storable : ∀ t ∈ a.texts, t.Storable

/-- The second row is the first with other metrics and another time of its last write. -/
def Anchor.Remeasured (a b : Anchor) : Prop := ∃ metrics updatedAt, b = { a with metrics, updatedAt }

theorem Anchor.remeasured_refl (a : Anchor) : a.Remeasured a := ⟨a.metrics, a.updatedAt, rfl⟩

/-- An update leaves everything else of a settled row as it is. -/
theorem Anchor.Settled.remeasured {a : Anchor} (settled : a.Settled) (p : Payload.MetricsUpdate) (now : Instant) :
    a.Remeasured (Repository.updatedRow a p now).stored := by
  refine ⟨(a.metrics.merge p).stored, (Timestamp.ofClock now).stored, ?_⟩
  have created : a.createdAt.stored = a.createdAt := congrArg Anchor.createdAt settled.stored
  simp only [Anchor.stored, Repository.updatedRow, created]

/-- What is stored of an update is, metric by metric, the given value or else the old one. -/
theorem Anchor.Settled.value?_updatedRow {a : Anchor} (settled : a.Settled) (p : Payload.MetricsUpdate) (now : Instant)
    (metric : Metric) : (Repository.updatedRow a p now).stored.metrics.value? metric =
      ((p.entry metric).value?.map Number.stored <|> a.metrics.value? metric) := by
  have old : a.metrics.stored = a.metrics := congrArg Anchor.metrics settled.stored
  calc (a.metrics.merge p).stored.value? metric
      = ((a.metrics.merge p).value? metric).map Number.stored := Metrics.value?_stored _ metric
    _ = ((p.entry metric).value?.map Number.stored <|> (a.metrics.value? metric).map Number.stored) := by
      rw [Metrics.value?_merge, Metrics.map_orElse]
    _ = ((p.entry metric).value?.map Number.stored <|> a.metrics.value? metric) := by
      rw [← Metrics.value?_stored, old]

theorem Anchor.settled_stored {a : Anchor} (storable : ∀ t ∈ a.texts, t.Storable) : a.stored.Settled :=
  ⟨a.stored_stored, storable⟩

theorem Asset.settled_stored {a : Asset} (storable : ∀ t ∈ a.texts, t.Storable) : a.stored.Settled :=
  ⟨a.stored_stored, storable⟩

namespace Store

structure Settled (store : Store) : Prop where
  anchors : ∀ a ∈ store.anchors, a.Settled
  assets : ∀ a ∈ store.assets, a.Settled

variable {before after : Store}

theorem Settled.change (settled : before.Settled) (change : before.Change after) : after.Settled := by
  cases change with
  | unchanged => exact settled
  | anchorAdded valid written =>
      have joined := anchorJoined written
      refine ⟨fun a member => ?_, joined.assets ▸ settled.assets⟩
      rw [joined.anchors, List.mem_append, List.mem_singleton] at member
      rcases member with old | rfl
      · exact settled.anchors a old
      · exact Anchor.settled_stored joined.storable
  | metricsMerged member valid consistent written =>
      have replaced := anchorReplaced written
      refine ⟨fun a stored => ?_, replaced.assets ▸ settled.assets⟩
      rw [replaced.anchors] at stored
      obtain ⟨old, was, rfl⟩ := List.mem_map.1 stored
      split
      -- The texts of an updated row are those of the row that was read.
      · exact Anchor.settled_stored (settled.anchors _ member).storable
      · exact settled.anchors old was
  | assetAdded valid written =>
      have joined := assetJoined written
      refine ⟨joined.anchors ▸ settled.anchors, fun a member => ?_⟩
      rw [joined.assets, List.mem_append, List.mem_singleton] at member
      rcases member with old | rfl
      · exact settled.assets a old
      · exact Asset.settled_stored joined.storable

theorem Change.hasTable (change : before.Change after) (statement : Statement) :
    after.hasTable statement = before.hasTable statement := by
  cases change with
  | unchanged => rfl
  | anchorAdded valid written =>
      obtain ⟨rows, table, -, -, rfl⟩ := insertAnchor_eq_ok.1 written
      cases statement <;> simp only [Store.hasTable, table, Option.isSome]
  | metricsMerged member valid consistent written =>
      obtain ⟨rows, table, rfl⟩ := updateAnchor_eq_ok.1 written
      cases statement <;> simp only [Store.hasTable, table, Option.isSome]
  | assetAdded valid written =>
      obtain ⟨rows, owners, table, -, -, -, rfl⟩ := insertAsset_eq_ok.1 written
      cases statement <;> simp only [Store.hasTable, table, Option.isSome]

end Store

theorem Reachable.settled {connection : Connection} (reachable : Reachable connection) :
    connection.store.Settled := by
  obtain ⟨start, steps, ⟨anchors, assets⟩, rfl⟩ := reachable
  refine run_invariant Store.Settled.change ⟨?_, ?_⟩ steps
  · rw [anchors]
    exact List.forall_mem_nil _
  · rw [assets]
    exact List.forall_mem_nil _

theorem run_hasTable (start : Connection) (steps : List Step) (statement : Statement) :
    (run start steps).store.hasTable statement = start.store.hasTable statement :=
  run_invariant (I := fun store => store.hasTable statement = start.store.hasTable statement)
    (fun same change => (change.hasTable statement).trans same) rfl steps

/-- A table that is there holds the rows that are stored. -/
theorem Store.anchorTable_of_hasTable {store : Store} (there : store.hasTable .insertAnchor) :
    store.anchorTable = some store.anchors := by
  obtain ⟨rows, table⟩ := Option.isSome_iff_exists.1 there
  rw [anchors_of_table table, table]

theorem Store.assetTable_of_hasTable {store : Store} (there : store.hasTable .insertAsset) :
    store.assetTable = some store.assets := by
  obtain ⟨rows, table⟩ := Option.isSome_iff_exists.1 there
  rw [assets_of_table table, table]

/-- On correctly created tables both tables are there after every run. -/
theorem run_tables {start : Connection} (created : start.store.Created) (steps : List Step) :
    (run start steps).store.anchorTable = some (run start steps).store.anchors ∧
      (run start steps).store.assetTable = some (run start steps).store.assets := by
  have anchors := run_hasTable start steps .insertAnchor
  have assets := run_hasTable start steps .insertAsset
  rw [created.eq_fresh] at anchors assets
  exact ⟨Store.anchorTable_of_hasTable anchors, Store.assetTable_of_hasTable assets⟩

end AnchorRegistry
