import AnchorRegistry.Proofs.Run
import AnchorRegistry.Proofs.Text.Strip
import AnchorRegistry.Proofs.Validation
import Mathlib.Data.List.Nodup

/-! What is legal in a store. A text fits its column once it is stripped, scores and volumes lie in their
ranges, counts fit 64 bits and the totals are consistent; every asset has its owner, and no two rows share a
key. The checks on a payload are what makes a new row legal, and the check after a merge is what keeps the
totals of an old one consistent. Every change preserves this, so it holds after every run from empty tables. -/

namespace AnchorRegistry

open Repository (anchorRow assetRow updatedRow)

/-- The text fits its column: stripped, not empty, and not longer than the limit. -/
structure Text.Fits (limit : Nat) (t : Text) : Prop where
  stripped : t.strip = t
  nonempty : t ≠ []
  short : t.length ≤ limit

theorem Text.fits_strip {limit : Nat} {t : Text} (nonempty : t.strip ≠ []) (short : t.strip.length ≤ limit) :
    t.strip.Fits limit := ⟨t.strip_strip, nonempty, short⟩

/-- A text that may be blank is none or fits. -/
theorem Text.fits_of_strip? {limit : Nat} {value : Option Text} (short : ∀ t ∈ value, t.strip.length ≤ limit) :
    ∀ t ∈ value.bind strip?, t.Fits limit := by
  intro stripped member
  obtain ⟨t, given, same⟩ := Option.bind_eq_some_iff.1 member
  obtain ⟨rfl, nonempty⟩ := strip?_eq_some_iff.1 same
  exact fits_strip nonempty (short t given)

structure Metrics.Legal (m : Metrics) : Prop where
  trustScore : ∀ d ∈ m.trustScore, d.UpTo 1
  reliabilityScore : ∀ d ∈ m.reliabilityScore, d.UpTo 100
  totalTransactions : IsCount m.totalTransactions
  successfulTransactions : IsCount m.successfulTransactions
  failedTransactions : IsCount m.failedTransactions
  totalVolumeUsd : m.totalVolumeUsd.NonNegative
  avgSettlementTimeMs : ∀ n ∈ m.avgSettlementTimeMs, IsCount n
  totals : m.successfulTransactions + m.failedTransactions ≤ m.totalTransactions

structure Anchor.Legal (a : Anchor) : Prop where
  accountReference : a.accountReference.Fits 56
  name : a.name.Fits 255
  homeDomain : ∀ t ∈ a.homeDomain, t.Fits 255
  metrics : a.metrics.Legal

structure Asset.Legal (a : Asset) : Prop where
  code : a.code.Fits 12
  issuer : ∀ t ∈ a.issuer, t.Fits 56
  totalSupply : ∀ d ∈ a.totalSupply, d.NonNegative
  numHolders : IsCount a.numHolders

structure Store.Legal (store : Store) : Prop where
  anchors : ∀ a ∈ store.anchors, a.Legal
  assets : ∀ a ∈ store.assets, a.Legal
  owned : ∀ a ∈ store.assets, ∃ owner ∈ store.anchors, owner.id = a.anchorId
  anchorIds : (store.anchors.map Anchor.id).Nodup
  assetIds : (store.assets.map Asset.id).Nodup
  accounts : store.uniqueAccounts → (store.anchors.map Anchor.accountReference).Nodup

namespace Metrics

theorem legal_initial : Legal {} where
  trustScore _ impossible := Option.not_mem_none _ impossible |>.elim
  reliabilityScore _ impossible := Option.not_mem_none _ impossible |>.elim
  totalTransactions := isCount_zero
  successfulTransactions := isCount_zero
  failedTransactions := isCount_zero
  totalVolumeUsd := by
    dsimp only
    exact Double.nonNegative_zero
  avgSettlementTimeMs _ impossible := Option.not_mem_none _ impossible |>.elim
  totals := le_rfl

theorem Legal.stored {m : Metrics} (legal : m.Legal) : m.stored.Legal := by
  refine { legal with trustScore := ?_, reliabilityScore := ?_, totalVolumeUsd := ?_ }
  · intro d member
    obtain ⟨score, old, rfl⟩ := Option.map_eq_some_iff.1 member
    exact (legal.trustScore score old).dropZeroSign
  · intro d member
    obtain ⟨score, old, rfl⟩ := Option.map_eq_some_iff.1 member
    exact (legal.reliabilityScore score old).dropZeroSign
  · exact legal.totalVolumeUsd.dropZeroSign

/-- An optional metric is legal after a merge if the given value and the old one are. -/
theorem legal_orElse {α : Type} {legal : α → Prop} {given old : Option α} (new : ∀ a ∈ given, legal a)
    (kept : ∀ a ∈ old, legal a) : ∀ a ∈ given <|> old, legal a := by
  cases given with
  | none => exact kept
  | some a => exact new

theorem legal_getD {α : Type} {legal : α → Prop} {entry : Payload.Entry α} {old : α}
    (new : ∀ a ∈ entry.value?, legal a) (kept : legal old) : legal (entry.getD old) := by
  unfold Payload.Entry.getD
  cases given : entry.value? with
  | none => exact kept
  | some a => exact new a given

theorem Legal.merge {m : Metrics} {p : Payload.MetricsUpdate} (legal : m.Legal) (valid : p.violation = none)
    (consistent : (m.merge p).violation = none) : (m.merge p).Legal := by
  have given (metric : Metric) {α : Type} {f : α → Number} {column : Payload.Entry α}
      (same : p.entry metric = column.map f) := Payload.MetricsUpdate.accepts_given valid metric same
  have count (metric : Metric) (limit : metric.limit? = some (2 ^ 63 - 1)) {column : Payload.Entry Int}
      (same : p.entry metric = column.map .int) : ∀ n ∈ column.value?, IsCount n :=
    fun n value => (Metric.accepts_int limit).1 (given metric same n value)
  refine ⟨?_, ?_, ?_, ?_, ?_, ?_, ?_, Validation.transactionTotals_eq_none.1 consistent⟩
  · refine legal_orElse (fun d value => ?_) legal.trustScore
    exact Metric.accepts_trustScore.1 (given .trustScore rfl d value)
  · refine legal_orElse (fun d value => ?_) legal.reliabilityScore
    exact Metric.accepts_reliabilityScore.1 (given .reliabilityScore rfl d value)
  · exact legal_getD (count .totalTransactions rfl rfl) legal.totalTransactions
  · exact legal_getD (count .successfulTransactions rfl rfl) legal.successfulTransactions
  · exact legal_getD (count .failedTransactions rfl rfl) legal.failedTransactions
  · refine legal_getD (fun d value => ?_) legal.totalVolumeUsd
    exact Metric.accepts_totalVolumeUsd.1 (given .totalVolumeUsd rfl d value)
  · exact legal_orElse (count .avgSettlementTimeMs rfl rfl) legal.avgSettlementTimeMs

end Metrics

theorem Anchor.Legal.stored {a : Anchor} (legal : a.Legal) : a.stored.Legal :=
  { legal with metrics := legal.metrics.stored }

theorem Asset.Legal.stored {a : Asset} (legal : a.Legal) : a.stored.Legal := by
  refine { legal with totalSupply := ?_ }
  intro d member
  obtain ⟨supply, old, rfl⟩ := Option.map_eq_some_iff.1 member
  exact (legal.totalSupply supply old).dropZeroSign

namespace Repository

theorem legal_anchorRow {p : Payload.NewAnchor} (valid : p.violation = none) (id : EntityId) (now : Instant) :
    (anchorRow p id now).Legal := by
  obtain ⟨account, name, domain⟩ := Validation.anchor_eq_none.1 valid
  exact ⟨Text.fits_strip account.1 account.2, Text.fits_strip name.1 name.2, Text.fits_of_strip? domain,
    Metrics.legal_initial⟩

theorem legal_updatedRow {a : Anchor} {p : Payload.MetricsUpdate} (legal : a.Legal) (valid : p.violation = none)
    (consistent : (a.metrics.merge p).violation = none) (now : Instant) : (updatedRow a p now).Legal :=
  { legal with metrics := legal.metrics.merge valid consistent }

theorem legal_assetRow {p : Payload.NewAsset} (valid : p.violation = none) (owner id : EntityId) (now : Instant) :
    (assetRow p owner id now).Legal := by
  obtain ⟨code, issuer, supply, holders⟩ := Validation.asset_eq_none.1 valid
  exact ⟨Text.fits_strip code.1 code.2, Text.fits_of_strip? issuer, supply,
    Metrics.legal_getD holders isCount_zero⟩

end Repository

namespace Store

variable {before after : Store}

theorem nodup_map_concat {α β : Type} {f : α → β} {rows : List α} {row : α} (old : (rows.map f).Nodup)
    (new : ∀ a ∈ rows, f a ≠ f row) : ((rows ++ [row]).map f).Nodup := by
  rw [List.map_append, List.map_singleton, List.nodup_append]
  refine ⟨old, List.nodup_singleton _, ?_⟩
  rintro _ member _ last same
  obtain ⟨a, stored, rfl⟩ := List.mem_map.1 member
  rw [List.mem_singleton] at last
  exact new a stored (same.trans last)

theorem legal_of_isEmpty {store : Store} (empty : store.IsEmpty) : store.Legal := by
  obtain ⟨anchors, assets⟩ := empty
  refine ⟨?_, ?_, ?_, ?_, ?_, ?_⟩ <;> simp [anchors, assets]

/-- A new anchor has an identifier and, where that counts, an account of its own. -/
theorem Legal.anchorJoined {row : Anchor} (legal : before.Legal) (joined : before.AnchorJoined row after)
    (legalRow : row.Legal) : after.Legal where
  anchors a member := by
    rw [joined.anchors, List.mem_append, List.mem_singleton] at member
    rcases member with old | rfl
    · exact legal.anchors a old
    · exact legalRow.stored
  assets a member := by
    rw [joined.assets] at member
    exact legal.assets a member
  owned a member := by
    rw [joined.assets] at member
    obtain ⟨owner, stored, same⟩ := legal.owned a member
    exact ⟨owner, joined.anchors ▸ List.mem_append_left _ stored, same⟩
  anchorIds := by
    rw [joined.anchors]
    exact nodup_map_concat legal.anchorIds joined.newId
  assetIds := by
    rw [joined.assets]
    exact legal.assetIds
  accounts unique := by
    rw [joined.uniqueAccounts] at unique
    rw [joined.anchors]
    exact nodup_map_concat (legal.accounts unique) (joined.newAccount unique)

/-- A rewritten anchor keeps its keys, because it was the only one with its identifier. -/
theorem map_replaced {β : Type} (f : Anchor → β) {rows : List Anchor} {anchor row : Anchor}
    (ids : (rows.map Anchor.id).Nodup) (member : anchor ∈ rows) (sameId : row.id = anchor.id)
    (same : f row.stored = f anchor) :
    (rows.map fun a => if a.id = row.id then row.stored else a).map f = rows.map f := by
  rw [List.map_map]
  apply List.map_congr_left
  intro a stored
  rw [Function.comp_apply]
  split
  · rename_i found
    have sole : a = anchor := List.inj_on_of_nodup_map ids stored member (found.trans sameId)
    rw [same, sole]
  · rfl

theorem Legal.anchorReplaced {anchor row : Anchor} (legal : before.Legal) (replaced : before.AnchorReplaced row after)
    (member : anchor ∈ before.anchors) (sameId : row.id = anchor.id)
    (sameAccount : row.accountReference = anchor.accountReference) (legalRow : row.Legal) : after.Legal := by
  have ids : after.anchors.map Anchor.id = before.anchors.map Anchor.id := by
    rw [replaced.anchors]
    exact map_replaced Anchor.id legal.anchorIds member sameId sameId
  refine ⟨?_, ?_, ?_, ?_, ?_, ?_⟩
  · intro a stored
    rw [replaced.anchors] at stored
    obtain ⟨old, was, rfl⟩ := List.mem_map.1 stored
    split
    · exact legalRow.stored
    · exact legal.anchors old was
  · rw [replaced.assets]
    exact legal.assets
  · intro a stored
    rw [replaced.assets] at stored
    obtain ⟨owner, old, same⟩ := legal.owned a stored
    have kept : owner.id ∈ after.anchors.map Anchor.id := by
      rw [ids]
      exact List.mem_map_of_mem old
    obtain ⟨owner', new, same'⟩ := List.mem_map.1 kept
    exact ⟨owner', new, same'.trans same⟩
  · rw [ids]
    exact legal.anchorIds
  · rw [replaced.assets]
    exact legal.assetIds
  · intro unique
    rw [replaced.uniqueAccounts] at unique
    rw [replaced.anchors, map_replaced _ legal.anchorIds member sameId sameAccount]
    exact legal.accounts unique

theorem Legal.assetJoined {row : Asset} (legal : before.Legal) (joined : before.AssetJoined row after)
    (legalRow : row.Legal) : after.Legal where
  anchors a member := by
    rw [joined.anchors] at member
    exact legal.anchors a member
  assets a member := by
    rw [joined.assets, List.mem_append, List.mem_singleton] at member
    rcases member with old | rfl
    · exact legal.assets a old
    · exact legalRow.stored
  owned a member := by
    rw [joined.assets, List.mem_append, List.mem_singleton] at member
    rw [joined.anchors]
    rcases member with old | rfl
    · exact legal.owned a old
    · exact joined.owned
  anchorIds := by
    rw [joined.anchors]
    exact legal.anchorIds
  assetIds := by
    rw [joined.assets]
    exact nodup_map_concat legal.assetIds joined.newId
  accounts unique := by
    rw [joined.uniqueAccounts] at unique
    rw [joined.anchors]
    exact legal.accounts unique

theorem Legal.change (legal : before.Legal) (change : before.Change after) : after.Legal := by
  cases change with
  | unchanged => exact legal
  | anchorAdded valid written =>
      exact legal.anchorJoined (Store.anchorJoined written) (Repository.legal_anchorRow valid _ _)
  | metricsMerged member valid consistent written =>
      apply legal.anchorReplaced (Store.anchorReplaced written) member rfl rfl
      exact Repository.legal_updatedRow (legal.anchors _ member) valid consistent _
  | assetAdded valid written =>
      exact legal.assetJoined (Store.assetJoined written) (Repository.legal_assetRow valid _ _ _)

/-- Whether accounts must be unique never changes. -/
theorem Change.uniqueAccounts (change : before.Change after) : after.uniqueAccounts = before.uniqueAccounts := by
  cases change with
  | unchanged => rfl
  | anchorAdded valid written => exact (anchorJoined written).uniqueAccounts
  | metricsMerged member valid consistent written => exact (anchorReplaced written).uniqueAccounts
  | assetAdded valid written => exact (assetJoined written).uniqueAccounts

end Store

theorem Reachable.legal {connection : Connection} (reachable : Reachable connection) : connection.store.Legal := by
  obtain ⟨start, steps, empty, rfl⟩ := reachable
  exact run_invariant Store.Legal.change (Store.legal_of_isEmpty empty) steps

theorem run_uniqueAccounts (start : Connection) (steps : List Step) :
    (run start steps).store.uniqueAccounts = start.store.uniqueAccounts :=
  run_invariant (I := fun store => store.uniqueAccounts = start.store.uniqueAccounts)
    (fun same change => change.uniqueAccounts.trans same) rfl steps

/-- Correctly created tables ask for unique accounts, and go on to do so. -/
theorem Store.Created.uniqueAccounts {start : Connection} (created : start.store.Created) (steps : List Step) :
    (run start steps).store.uniqueAccounts := by
  rw [run_uniqueAccounts, created.eq_fresh]
  rfl

/-- After any run on correctly created tables, whatever it asked for and whatever faults it met, every row is
legal, every asset has its owner, and no two anchors have the same account. -/
theorem run_legal {start : Connection} (created : start.store.Created) (steps : List Step) :
    (run start steps).store.Legal ∧ ((run start steps).store.anchors.map Anchor.accountReference).Nodup := by
  have legal := (created.reachable steps).legal
  exact ⟨legal, legal.accounts (created.uniqueAccounts steps)⟩

theorem run_legal_registration :
    Sample.start.store.Created ∧ (run Sample.start [.call Sample.circumstances Sample.registration]).store.Legal :=
  ⟨.directly, (run_legal .directly _).1⟩

end AnchorRegistry
