import AnchorRegistry.Proofs.Commutation
import AnchorRegistry.Proofs.Interruption

/-! Which check comes first. The operations that are given an identifier check it and their payload in different
orders: an update checks the payload, then the identifier, then the totals that it would leave, and a new asset checks
the identifier before its payload. A text that is no identifier is decided before the store is asked anything, so
neither a fault nor a missing table changes that answer. -/

namespace AnchorRegistry

open Repository
open Http (Circumstances)

namespace Metrics

/-- The merged totals are checked as whole numbers of any size. -/
theorem violation_of_exceeds {m : Metrics}
    (exceeds : m.totalTransactions < m.successfulTransactions + m.failedTransactions) :
    m.violation = some .inconsistentTotals := if_pos exceeds

theorem violation_of_not_exceeds {m : Metrics}
    (within : ¬m.totalTransactions < m.successfulTransactions + m.failedTransactions) : m.violation = none :=
  if_neg within

end Metrics

namespace Action

variable {α β : Type}

theorem fail_bind (cause : Cause) (anchorId : Option Text) (next : α → Action β) :
    (fail cause anchorId >>= next) = fail cause anchorId := by
  funext s
  exact bind_of_error rfl

theorem map_fail (f : α → β) (cause : Cause) (anchorId : Option Text) :
    f <$> (fail cause anchorId : Action α) = fail cause anchorId := by
  rw [map_eq_pure_bind, fail_bind]

end Action

namespace Repository

namespace Invocation

/-- The call looks an anchor up under the text before it does anything else, but for the check of an update. -/
inductive LooksUp (raw : Text) : Invocation → Prop
  | getAnchorById : LooksUp raw (getAnchorById raw)
  | updateAnchorMetrics {p : Payload.MetricsUpdate} (valid : p.violation = none) :
    LooksUp raw (updateAnchorMetrics raw p)
  | createAsset {p : Payload.NewAsset} : LooksUp raw (createAsset raw p)
  | listAssetsForAnchor : LooksUp raw (listAssetsForAnchor raw)

end Invocation

section Early

open AnchorRegistry.Action

variable {α β : Type} {raw : Text}

theorem notFound_bind (raw : Text) (next : α → Action β) : (notFound raw >>= next) = notFound raw :=
  fail_bind _ (some raw) next

theorem updateAnchorMetrics_of_violation {p : Payload.MetricsUpdate} {v : Violation} (found : p.violation = some v) :
    updateAnchorMetrics raw p = fail (.invalidInput v.message v.field?) (some raw) := by
  unfold Payload.MetricsUpdate.violation at found
  unfold updateAnchorMetrics
  rw [found, refuse, fail_bind]

section Unread

variable (unread : EntityId.parse? raw = none)

include unread

theorem getAnchorById_of_unread : getAnchorById raw = notFound raw := by
  unfold getAnchorById
  rw [unread]

theorem updateAnchorMetrics_of_unread {p : Payload.MetricsUpdate} (valid : p.violation = none) :
    updateAnchorMetrics raw p = notFound raw := by
  unfold Payload.MetricsUpdate.violation at valid
  unfold updateAnchorMetrics
  rw [valid, refuse, pure_bind, getAnchorById_of_unread unread, notFound_bind]

theorem createAsset_of_unread (p : Payload.NewAsset) : createAsset raw p = notFound raw := by
  unfold createAsset
  rw [getAnchorById_of_unread unread, notFound_bind]

theorem listAssetsForAnchor_of_unread : listAssetsForAnchor raw = notFound raw := by
  unfold listAssetsForAnchor
  rw [getAnchorById_of_unread unread, notFound_bind]

end Unread

end Early

namespace Invocation

variable {c : Circumstances} {connection : Connection} {raw : Text}

/-- A call that does nothing but fail makes no call of the store and leaves the connection as it is. -/
theorem run_of_fail {invocation : Invocation} {cause : Cause} {anchorId : Option Text}
    (action : invocation.action = Action.fail cause anchorId) (c : Circumstances) (connection : Connection) :
    invocation.run c connection = (.error (.service ⟨cause, { timestamp := c.now, anchorId }⟩), connection) ∧
      ∀ call, invocation.calls c connection call = 0 := by
  refine ⟨?_, fun call => ?_⟩
  · rw [run_eq, action]
    rfl
  · rw [calls_eq, action]
    exact calls_session c connection call

/-- An update that a check refuses does not get as far as its identifier. -/
theorem run_update_of_violation {p : Payload.MetricsUpdate} {v : Violation} (found : p.violation = some v)
    (raw : Text) (c : Circumstances) (connection : Connection) :
    (updateAnchorMetrics raw p).run c connection = (.error (.refused v (some raw) c.now), connection) ∧
      ∀ call, (updateAnchorMetrics raw p).calls c connection call = 0 :=
  run_of_fail ((congrArg _ (updateAnchorMetrics_of_violation found)).trans (Action.map_fail _ _ _)) c connection

/-- Whatever is planned to fail and whatever is missing, the answer to a text that is no identifier is the same. -/
theorem LooksUp.run_of_unread {invocation : Invocation} (looks : invocation.LooksUp raw)
    (unread : EntityId.parse? raw = none) (c : Circumstances) (connection : Connection) :
    invocation.run c connection = (.error (.missing raw c.now), connection) ∧
      ∀ call, invocation.calls c connection call = 0 := by
  refine run_of_fail ?_ c connection
  cases looks with
  | getAnchorById => exact (congrArg _ (getAnchorById_of_unread unread)).trans (Action.map_fail _ _ _)
  | updateAnchorMetrics valid =>
      exact (congrArg _ (updateAnchorMetrics_of_unread unread valid)).trans (Action.map_fail _ _ _)
  | @createAsset p => exact (congrArg _ (createAsset_of_unread unread p)).trans (Action.map_fail _ _ _)
  | listAssetsForAnchor =>
      exact (congrArg _ (listAssetsForAnchor_of_unread unread)).trans (Action.map_fail _ _ _)

section Ready

variable (ready : c.Ready connection)

include ready

/-- A text that names no anchor is told so by every call that looks it up first. -/
theorem LooksUp.run_of_unnamed {invocation : Invocation} (looks : invocation.LooksUp raw)
    (unnamed : ¬connection.store.Names raw) : (invocation.run c connection).1 = .error (.missing raw c.now) := by
  have nothing : connection.store.named? raw = none := by
    rw [Store.named?_eq_none ready.legal]
    exact fun anchor member read => unnamed ⟨anchor, member, read⟩
  have lookUp : connection.store.lookUp raw c.now = .error (.missing raw c.now) := Store.lookUp_of_none nothing
  rw [run_outcome ready]
  cases looks with
  | updateAnchorMetrics valid => simp only [Store.outcome, Store.refusing, valid, lookUp, bind, Except.bind]
  | _ => simp only [Store.outcome, lookUp, bind, Except.bind]

variable {anchor : Anchor} (member : anchor ∈ connection.store.anchors) (read : EntityId.parse? raw = some anchor.id)

include member read

theorem lookUp_of_mem : connection.store.lookUp raw c.now = .ok anchor :=
  Store.lookUp_of_some ((Store.named?_eq_some ready.legal).2 ⟨member, read⟩)

theorem run_update_of_exceeds {p : Payload.MetricsUpdate} (valid : p.violation = none)
    (exceeds : (anchor.metrics.merge p).totalTransactions <
      (anchor.metrics.merge p).successfulTransactions + (anchor.metrics.merge p).failedTransactions) :
    ((updateAnchorMetrics raw p).run c connection).1 =
      .error (.refused .inconsistentTotals (some anchor.id.toText) c.now) := by
  rw [run_outcome ready]
  simp only [Store.outcome, Store.refusing, valid, lookUp_of_mem ready member read,
    Metrics.violation_of_exceeds exceeds, bind, Except.bind]

theorem run_update_of_within {p : Payload.MetricsUpdate} (valid : p.violation = none)
    (within : ¬(anchor.metrics.merge p).totalTransactions <
      (anchor.metrics.merge p).successfulTransactions + (anchor.metrics.merge p).failedTransactions) :
    ((updateAnchorMetrics raw p).run c connection).1 = .ok (.anchor (updatedRow anchor p c.now)) ∧
      connection.store.AnchorReplaced (updatedRow anchor p c.now)
        ((updateAnchorMetrics raw p).run c connection).2.store := by
  have returned : ((updateAnchorMetrics raw p).run c connection).1 = .ok (.anchor (updatedRow anchor p c.now)) := by
    rw [run_outcome ready]
    simp only [Store.outcome, Store.refusing, valid, lookUp_of_mem ready member read,
      Metrics.violation_of_not_exceeds within, bind, Except.bind]
    rfl
  refine ⟨returned, ?_⟩
  have returns := returns_of_run returned
  generalize same : Rows.anchor (updatedRow anchor p c.now) = rows at returns
  cases returns with
  | updateAnchorMetrics _ old _ written =>
      rw [← Rows.anchor.inj same] at written
      exact Store.anchorReplaced (Session.eq_ok_of_attempt written)

theorem run_createAsset_of_violation {p : Payload.NewAsset} {v : Violation} (found : p.violation = some v) :
    ((createAsset raw p).run c connection).1 = .error (.refused v (some anchor.id.toText) c.now) := by
  rw [run_outcome ready]
  simp only [Store.outcome, Store.refusing, found, lookUp_of_mem ready member read, bind, Except.bind]

theorem run_createAsset_of_valid {p : Payload.NewAsset} (valid : p.violation = none) (encodable : p.Encodable)
    (fresh : ∀ a ∈ connection.store.assets, a.id ≠ c.freshId) :
    ((createAsset raw p).run c connection).1 = .ok (.asset (assetRow p anchor.id c.freshId c.now)) ∧
      connection.store.AssetJoined (assetRow p anchor.id c.freshId c.now)
        ((createAsset raw p).run c connection).2.store := by
  have encoded : Store.encodable (assetRow p anchor.id c.freshId c.now).texts = .ok () :=
    Store.encodable_eq_ok.2 (storable_assetRow.2 encodable)
  have admitted : Store.admitsAsset connection.store.anchors connection.store.assets
      (assetRow p anchor.id c.freshId c.now) = true := Store.admitsAsset_iff.2 ⟨fresh, anchor, member, rfl⟩
  have returned : ((createAsset raw p).run c connection).1 =
      .ok (.asset (assetRow p anchor.id c.freshId c.now)) := by
    rw [run_outcome ready]
    simp only [Store.outcome, Store.refusing, valid, lookUp_of_mem ready member read, encoded, admitted, if_true,
      bind, Except.bind]
    rfl
  refine ⟨returned, ?_⟩
  have returns := returns_of_run returned
  generalize same : Rows.asset (assetRow p anchor.id c.freshId c.now) = rows at returns
  cases returns with
  | createAsset _ old written =>
      have row := Rows.asset.inj same
      rw [← row] at written
      exact Store.assetJoined (Session.eq_ok_of_attempt written)

end Ready

/-- How the operations on an identifier end, and which check comes first. An update is refused for its payload before
anything else, whatever its identifier; then every one of them, a new asset before its payload is checked, is told that
the identifier names no anchor; then an update is refused for the totals that the merge would leave, and an asset for
its payload; and then it succeeds. A text that is no identifier is told so whatever the store holds and whatever fails,
without a call of the store. -/
theorem run_precedence (reachable : Reachable connection) (anchorTable : connection.store.hasTable .insertAnchor)
    (assetTable : connection.store.hasTable .insertAsset) (unfaulted : c.fault = none) (raw : Text) :
    (∀ (p : Payload.MetricsUpdate) v, p.violation = some v → ∀ d other,
      (updateAnchorMetrics raw p).run d other = (.error (.refused v (some raw) d.now), other)) ∧
    (∀ invocation : Invocation, invocation.LooksUp raw → ¬connection.store.Names raw →
      (invocation.run c connection).1 = .error (.missing raw c.now)) ∧
    (∀ anchor ∈ connection.store.anchors, EntityId.parse? raw = some anchor.id →
      ((getAnchorById raw).run c connection).1 = .ok (.anchor anchor) ∧
      ((listAssetsForAnchor raw).run c connection).1 = .ok (.assets (connection.store.owned anchor.id)) ∧
      (∀ p : Payload.MetricsUpdate, p.violation = none →
        let merged := anchor.metrics.merge p
        let ran := (updateAnchorMetrics raw p).run c connection
        (merged.totalTransactions < merged.successfulTransactions + merged.failedTransactions →
          ran.1 = .error (.refused .inconsistentTotals (some anchor.id.toText) c.now)) ∧
        (¬merged.totalTransactions < merged.successfulTransactions + merged.failedTransactions →
          ran.1 = .ok (.anchor (updatedRow anchor p c.now)) ∧
          connection.store.AnchorReplaced (updatedRow anchor p c.now) ran.2.store)) ∧
      ∀ p : Payload.NewAsset,
        let ran := (createAsset raw p).run c connection
        (∀ v, p.violation = some v → ran.1 = .error (.refused v (some anchor.id.toText) c.now)) ∧
        (p.violation = none → p.Encodable → (∀ a ∈ connection.store.assets, a.id ≠ c.freshId) →
          ran.1 = .ok (.asset (assetRow p anchor.id c.freshId c.now)) ∧
          connection.store.AssetJoined (assetRow p anchor.id c.freshId c.now) ran.2.store)) ∧
    (EntityId.parse? raw = none → ∀ invocation : Invocation, invocation.LooksUp raw → ∀ d other,
      invocation.run d other = (.error (.missing raw d.now), other) ∧
      ∀ call, invocation.calls d other call = 0) := by
  have ready := reachable.ready anchorTable assetTable unfaulted
  refine ⟨?_, ?_, ?_, ?_⟩
  · intro p v found d other
    exact (run_update_of_violation found raw d other).1
  · intro invocation looks unnamed
    exact looks.run_of_unnamed ready unnamed
  · intro anchor member read
    refine ⟨run_getAnchorById unfaulted ready.legal member read,
      run_listAssetsForAnchor unfaulted ready.legal member ready.assetTable read, fun p valid => ⟨?_, ?_⟩,
      fun p => ⟨fun v found => ?_, fun valid encodable fresh => ?_⟩⟩
    · exact run_update_of_exceeds ready member read valid
    · exact run_update_of_within ready member read valid
    · exact run_createAsset_of_violation ready member read found
    · exact run_createAsset_of_valid ready member read valid encodable fresh
  · intro unread invocation looks d other
    exact looks.run_of_unread unread d other

end Invocation

end Repository

namespace Sample

/-- More successes than an anchor without transactions can have. -/
def successes : Payload.MetricsUpdate := { counts with totalTransactions := .absent }

/-- A connection to a database without tables, where the next statement fails as well. -/
def desert : Connection := { store := .blank }

def failing : Http.Circumstances := circumstances.interrupting .execute 1 .operational

end Sample

/-- The anchor of the sample takes its counts but not the successes alone, and a text that is no identifier is missing
without tables too. -/
theorem Repository.Invocation.run_precedence_counts :
    ((updateAnchorMetrics Sample.anchorId.toText Sample.successes).run Sample.issuing Sample.registered).1 =
        .error (.refused .inconsistentTotals (some Sample.anchorId.toText) ⟨6⟩) ∧
      (∃ row, ((updateAnchorMetrics Sample.anchorId.toText Sample.counts).run Sample.issuing Sample.registered).1 =
        .ok (.anchor row)) ∧
      (createAsset "x" Sample.token).run Sample.failing Sample.desert = (.error (.missing "x" ⟨5⟩), Sample.desert) := by
  have anchors : Sample.registered.store.hasTable .insertAnchor := by decide +kernel
  have assets : Sample.registered.store.hasTable .insertAsset := by decide +kernel
  have decided (raw : Text) :=
    run_precedence Sample.reachable_registered anchors assets (rfl : Sample.issuing.fault = none) raw
  have member : (anchorRow Sample.profile Sample.anchorId ⟨5⟩).stored ∈ Sample.registered.store.anchors := by
    decide +kernel
  obtain ⟨-, -, named, -⟩ := decided Sample.anchorId.toText
  obtain ⟨-, -, updates, -⟩ := named _ member Sample.anchorId.parse?_toText
  obtain ⟨-, -, -, unread⟩ := decided "x"
  refine ⟨(updates Sample.successes (by decide +kernel)).1 (by decide +kernel), ?_, ?_⟩
  · exact ⟨_, ((updates Sample.counts (by decide +kernel)).2 (by decide +kernel)).1⟩
  · exact (unread (by decide +kernel) _ .createAsset Sample.failing Sample.desert).1

end AnchorRegistry
