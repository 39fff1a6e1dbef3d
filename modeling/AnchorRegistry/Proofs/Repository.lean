import AnchorRegistry.Repository
import AnchorRegistry.Proofs.Session
import AnchorRegistry.Proofs.Store

/-! How the operations end. Each write checks its payload, looks its anchor up where it names one, and makes
one commit as its last call; so it returns exactly when that commit succeeds, and a failure of whatever kind
leaves the store as it was. The ways in which an operation can fail are listed as constructors: refused by a
check, missing, taken, or broken by what a call to the store gave. Reads never change the store. -/

namespace AnchorRegistry

namespace Payload

/-- What the checks find in a new anchor. -/
def NewAnchor.violation (p : NewAnchor) : Option Violation :=
  Validation.anchor (some p.accountReference) (some p.name) p.homeDomain.value?

/-- What the checks find in an update. -/
def MetricsUpdate.violation (p : MetricsUpdate) : Option Violation := Validation.metricsUpdate p.changes

/-- What the checks find in a new asset. -/
def NewAsset.violation (p : NewAsset) : Option Violation :=
  Validation.asset (some p.code) p.issuer.value? (p.totalSupply.value?.map .double) (p.numHolders.value?.map .int)

end Payload

/-- What the checks find in the totals that an update would leave. -/
def Metrics.violation (m : Metrics) : Option Violation :=
  Validation.transactionTotals m.totalTransactions m.successfulTransactions m.failedTransactions

namespace Failure

/-- The failure of an operation whose anchor is not there. -/
def missing (raw : Text) (now : Instant) : Failure :=
  service ⟨.notFound "Anchor" raw, { timestamp := now, anchorId := some raw }⟩

/-- The failure of a look-up of an account that has no anchor. -/
def missingAccount (accountReference : Text) (now : Instant) : Failure :=
  service ⟨.notFound "Anchor" accountReference, { timestamp := now, accountReference := some accountReference }⟩

/-- The failure of a registration whose account has an anchor. -/
def taken (accountReference : Text) (now : Instant) : Failure :=
  service ⟨.conflict (("Anchor with account '" : Text) ++ accountReference ++ ("' already exists" : Text)),
    { timestamp := now, accountReference := some accountReference }⟩

/-- The failure of a look-up of an account that has several anchors. -/
def duplicated (accountReference : Text) (now : Instant) : Failure :=
  service ⟨.invariantViolation (("Duplicate anchors for account '" : Text) ++ accountReference ++ ("'" : Text)),
    { timestamp := now, accountReference := some accountReference }⟩

end Failure

namespace Repository

open Session

/-- The row of an anchor after an update. -/
def updatedRow (a : Anchor) (p : Payload.MetricsUpdate) (now : Instant) : Anchor :=
  { a with metrics := a.metrics.merge p, updatedAt := .ofClock now }

/-- What the commit of a registration gives. -/
def registering (p : Payload.NewAnchor) (s : Session) : Attempt Store :=
  s.attempt .commit (s.store.insertAnchor (s.isPrepared .insertAnchor) (anchorRow p s.freshId s.now))

/-- What a look-up by identifier gives. -/
def lookingUp (id : EntityId) (s : Session) : Attempt (List Anchor) :=
  s.attempt .execute (s.store.selectAnchors fun a => a.id = id)

inductive CreateFails (p : Payload.NewAnchor) (s : Session) : Failure → Prop
  | refused {v : Violation} (found : p.violation = some v) : CreateFails p s (.refused v none s.now)
  | taken (valid : p.violation = none) (rejected : registering p s = .error (.storage .integrity)) :
    CreateFails p s (.taken p.accountReference.strip s.now)
  | broken {reason : Failure} (valid : p.violation = none) (met : registering p s = .error reason)
    (other : reason ≠ .storage .integrity) :
    CreateFails p s (reason.classified Operation.createAnchor.name s.now)

/-- A registration returns its row when the commit of that row succeeds. -/
theorem createAnchor_ends (p : Payload.NewAnchor) (s : Session) :
    (createAnchor p).Ends s
      (fun row t => s.Frame t ∧ p.violation = none ∧ row = anchorRow p s.freshId s.now ∧
        registering p s = .ok t.store)
      (fun failure t => s.Keeps t ∧ CreateFails p s failure) := by
  have reached := keeps_reach s .commit .insertAnchor
  refine .refuse_bind (fun valid => ?_) fun v found => ⟨.refl s, .refused found⟩
  refine .freshId_bind (.now_bind ?_)
  -- The commit of the row either fails, which `broken` and `taken` tell apart, or is the last call.
  refine .bind (R := fun _ t => s.Frame t ∧ registering p s = .ok t.store) ?_ ?_
  · refine .guarded (F := fun failure t => s.Keeps t ∧
      (failure = .taken p.accountReference.strip s.now ∧ registering p s = .error (.storage .integrity) ∨
        registering p s = .error failure ∧ failure ≠ .storage .integrity)) ?_ ?_
    · refine .onIntegrity (F := fun failure t => s.Keeps t ∧ registering p s = .error failure) ?_ ?_ ?_
      · refine .commitBinding (fun store written => ?_) fun failure met => ⟨reached, met⟩
        exact ⟨reached.toFrame.trans (frame_withStore _ store), written⟩
      · rintro t ⟨kept, rejected⟩
        refine .log_bind (.fail ⟨kept.trans (keeps_note t _), .inl ⟨?_, rejected⟩⟩)
        rw [(keeps_note t _).now, kept.now]
        rfl
      · rintro failure t ⟨kept, met⟩ other
        exact ⟨kept, .inr ⟨met, other⟩⟩
    · rintro failure t u ⟨kept, ⟨rfl, rejected⟩ | ⟨met, other⟩⟩ onward
      · exact ⟨kept.trans onward, .taken valid rejected⟩
      · rw [kept.now]
        exact ⟨kept.trans onward, .broken valid met other⟩
  · rintro _ t ⟨framed, written⟩
    exact .log_bind (.pure ⟨framed.trans (keeps_note t _).toFrame, valid, rfl, written⟩)

inductive LookupFails (raw : Text) (s : Session) : Failure → Prop
  | malformed (unread : EntityId.parse? raw = none) : LookupFails raw s (.missing raw s.now)
  | unknown {id : EntityId} (read : EntityId.parse? raw = some id) (nothing : lookingUp id s = .ok []) :
    LookupFails raw s (.missing raw s.now)
  | broken {id : EntityId} {reason : Failure} (read : EntityId.parse? raw = some id)
    (met : lookingUp id s = .error reason) :
    LookupFails raw s (reason.classified Operation.getAnchorById.name s.now)

/-- The look-up found this anchor under the text. -/
def Found (raw : Text) (s : Session) (anchor : Anchor) : Prop :=
  ∃ id rest, EntityId.parse? raw = some id ∧ lookingUp id s = .ok (anchor :: rest)

theorem Found.mem {raw : Text} {s : Session} {anchor : Anchor} (found : Found raw s anchor) :
    anchor ∈ s.store.anchors ∧ EntityId.parse? raw = some anchor.id := by
  obtain ⟨id, rest, read, gave⟩ := found
  obtain ⟨rows, table, selected⟩ := Store.selectAnchors_eq_ok.1 (eq_ok_of_attempt gave)
  have member : anchor ∈ rows.filter fun a => a.id = id := by
    rw [← selected]
    exact List.mem_cons_self
  rw [List.mem_filter, decide_eq_true_eq] at member
  rw [Store.anchors_of_table table, read, member.2]
  exact ⟨member.1, rfl⟩

theorem getAnchorById_ends (raw : Text) (s : Session) :
    (getAnchorById raw).Ends s (fun anchor t => t = s.count .execute ∧ Found raw s anchor)
      (fun failure t => s.Keeps t ∧ LookupFails raw s failure) := by
  have counted := keeps_count s .execute
  unfold getAnchorById
  split
  · rename_i unread
    exact .fail ⟨.refl s, .malformed unread⟩
  · rename_i id read
    refine .bind (R := fun found t => t = s.count .execute ∧ lookingUp id s = .ok found) ?_ ?_
    · refine .guarded (F := fun failure t => s.Keeps t ∧ lookingUp id s = .error failure) ?_ ?_
      · exact .execute (fun found gave => ⟨rfl, gave⟩) fun failure met => ⟨counted, met⟩
      · rintro failure t u ⟨kept, met⟩ onward
        rw [kept.now]
        exact ⟨kept.trans onward, .broken read met⟩
    · rintro found _ ⟨rfl, gave⟩
      cases found with
      | nil =>
          refine .fail ⟨counted, ?_⟩
          rw [counted.now]
          exact .unknown read gave
      | cons anchor rest => exact .pure ⟨rfl, id, rest, read, gave⟩

/-- What the commit of an update gives. -/
def merging (row : Anchor) (s : Session) : Attempt Store := s.attempt .commit (s.store.updateAnchor row)

inductive UpdateFails (raw : Text) (p : Payload.MetricsUpdate) (s : Session) : Failure → Prop
  | refused {v : Violation} (found : p.violation = some v) : UpdateFails raw p s (.refused v (some raw) s.now)
  | lookup {failure : Failure} (valid : p.violation = none) (fails : LookupFails raw s failure) :
    UpdateFails raw p s failure
  | inconsistent {anchor : Anchor} {v : Violation} (valid : p.violation = none) (old : Found raw s anchor)
    (found : (anchor.metrics.merge p).violation = some v) :
    UpdateFails raw p s (.refused v (some anchor.id.toText) s.now)
  | broken {anchor : Anchor} {reason : Failure} (valid : p.violation = none) (old : Found raw s anchor)
    (consistent : (anchor.metrics.merge p).violation = none)
    (met : merging (updatedRow anchor p s.now) s = .error reason) :
    UpdateFails raw p s (reason.classified Operation.updateAnchorMetrics.name s.now)

/-- A commit is planned to fail by its number among the commits, which a look-up does not change. -/
theorem merging_count (row : Anchor) (s : Session) : merging row (s.count .execute) = merging row s := rfl

theorem updateAnchorMetrics_ends (raw : Text) (p : Payload.MetricsUpdate) (s : Session) :
    (updateAnchorMetrics raw p).Ends s
      (fun row t => s.Frame t ∧ p.violation = none ∧ ∃ anchor, Found raw s anchor ∧
        (anchor.metrics.merge p).violation = none ∧ row = updatedRow anchor p s.now ∧
        merging row s = .ok t.store)
      (fun failure t => s.Keeps t ∧ UpdateFails raw p s failure) := by
  refine .refuse_bind (fun valid => ?_) fun v found => ⟨.refl s, .refused found⟩
  refine .bind ((getAnchorById_ends raw s).mono (fun anchor t looked => looked)
    fun failure t ⟨kept, fails⟩ => ⟨kept, .lookup valid fails⟩) ?_
  rintro anchor _ ⟨rfl, old⟩
  have kept := keeps_count s .execute
  refine .refuse_bind (fun consistent => ?_) fun v found => ⟨kept, ?_⟩
  · refine .now_bind ?_
    rw [kept.now]
    have same := merging_count (updatedRow anchor p s.now) s
    refine .bind (R := fun _ u => s.Frame u ∧ merging (updatedRow anchor p s.now) s = .ok u.store) ?_ ?_
    · refine .guarded (F := fun failure u =>
        s.Keeps u ∧ merging (updatedRow anchor p s.now) s = .error failure) ?_ ?_
      · have counted := kept.trans (keeps_count (s.count .execute) .commit)
        refine .commit (fun store written => ?_) fun failure met => ⟨counted, same.symm.trans met⟩
        exact ⟨counted.toFrame.trans (frame_withStore _ store), same.symm.trans written⟩
      · rintro failure u v ⟨onward, met⟩ last
        rw [onward.now]
        exact ⟨onward.trans last, .broken valid old consistent met⟩
    · rintro _ u ⟨framed, written⟩
      exact .log_bind (.pure ⟨framed.trans (keeps_note u _).toFrame, valid, anchor, old, consistent, rfl, written⟩)
  · rw [kept.now]
    exact .inconsistent valid old found

/-- What the commit of an asset gives. -/
def adding (row : Asset) (s : Session) : Attempt Store :=
  s.attempt .commit (s.store.insertAsset (s.isPrepared .insertAsset) row)

theorem adding_count (row : Asset) (s : Session) : adding row (s.count .execute) = adding row s := rfl

inductive AssetFails (raw : Text) (p : Payload.NewAsset) (s : Session) : Failure → Prop
  | lookup {failure : Failure} (fails : LookupFails raw s failure) : AssetFails raw p s failure
  | refused {anchor : Anchor} {v : Violation} (old : Found raw s anchor) (found : p.violation = some v) :
    AssetFails raw p s (.refused v (some anchor.id.toText) s.now)
  | rejected {anchor : Anchor} (old : Found raw s anchor) (valid : p.violation = none)
    (met : adding (assetRow p anchor.id s.freshId s.now) s = .error (.storage .integrity)) :
    AssetFails raw p s (.missing raw s.now)
  | broken {anchor : Anchor} {reason : Failure} (old : Found raw s anchor) (valid : p.violation = none)
    (met : adding (assetRow p anchor.id s.freshId s.now) s = .error reason)
    (other : reason ≠ .storage .integrity) :
    AssetFails raw p s (reason.classified Operation.createAsset.name s.now)

theorem createAsset_ends (raw : Text) (p : Payload.NewAsset) (s : Session) :
    (createAsset raw p).Ends s
      (fun row t => s.Frame t ∧ p.violation = none ∧ ∃ anchor, Found raw s anchor ∧
        row = assetRow p anchor.id s.freshId s.now ∧ adding row s = .ok t.store)
      (fun failure t => s.Keeps t ∧ AssetFails raw p s failure) := by
  refine .bind ((getAnchorById_ends raw s).mono (fun anchor t looked => looked)
    fun failure t ⟨kept, fails⟩ => ⟨kept, .lookup fails⟩) ?_
  rintro anchor _ ⟨rfl, old⟩
  have kept := keeps_count s .execute
  refine .refuse_bind (fun valid => ?_) fun v found => ?_
  · refine .freshId_bind (.now_bind ?_)
    rw [kept.freshId, kept.now]
    have same := adding_count (assetRow p anchor.id s.freshId s.now) s
    have reached := kept.trans (keeps_reach (s.count .execute) .commit .insertAsset)
    refine .bind (R := fun _ u => s.Frame u ∧
      adding (assetRow p anchor.id s.freshId s.now) s = .ok u.store) ?_ ?_
    · refine .guarded (F := fun failure u => s.Keeps u ∧
        (failure = .missing raw s.now ∧
            adding (assetRow p anchor.id s.freshId s.now) s = .error (.storage .integrity) ∨
          adding (assetRow p anchor.id s.freshId s.now) s = .error failure ∧
            failure ≠ .storage .integrity)) ?_ ?_
      · refine .onIntegrity (F := fun failure u => s.Keeps u ∧
          adding (assetRow p anchor.id s.freshId s.now) s = .error failure) ?_ ?_ ?_
        · refine .commitBinding (fun store written => ?_) fun failure met => ⟨reached, same.symm.trans met⟩
          exact ⟨reached.toFrame.trans (frame_withStore _ store), same.symm.trans written⟩
        · rintro u ⟨onward, rejected⟩
          refine .fail ⟨onward, .inl ⟨?_, rejected⟩⟩
          rw [onward.now]
          rfl
        · rintro failure u ⟨onward, met⟩ other
          exact ⟨onward, .inr ⟨met, other⟩⟩
      · rintro failure u v ⟨onward, ⟨rfl, met⟩ | ⟨met, other⟩⟩ last
        · exact ⟨onward.trans last, .rejected old valid met⟩
        · rw [onward.now]
          exact ⟨onward.trans last, .broken old valid met other⟩
    · rintro _ u ⟨framed, written⟩
      exact .log_bind (.pure ⟨framed.trans (keeps_note u _).toFrame, valid, anchor, old, rfl, written⟩)
  · rw [kept.now]
    exact ⟨kept, .refused old found⟩

/-- What the list of all anchors is made from. -/
def readingAll (s : Session) : Attempt (List Anchor) := s.attempt .execute (s.store.selectAnchors fun _ => true)

inductive ListFails (s : Session) : Failure → Prop
  | broken {reason : Failure} (met : readingAll s = .error reason) :
    ListFails s (reason.classified Operation.listAnchors.name s.now)

theorem listAnchors_ends (s : Session) :
    listAnchors.Ends s
      (fun anchors t => s.Keeps t ∧ ∃ found, readingAll s = .ok found ∧ anchors = found.mergeSort Anchor.before)
      (fun failure t => s.Keeps t ∧ ListFails s failure) := by
  have counted := keeps_count s .execute
  refine .guarded (F := fun failure t => s.Keeps t ∧ readingAll s = .error failure) ?_ ?_
  · refine .bind (R := fun found t => s.Keeps t ∧ readingAll s = .ok found) ?_ ?_
    · exact .execute (fun found gave => ⟨counted, gave⟩) fun failure met => ⟨counted, met⟩
    · rintro found t ⟨kept, gave⟩
      exact .pure ⟨kept, found, gave, rfl⟩
  · rintro failure t u ⟨kept, met⟩ onward
    rw [kept.now]
    exact ⟨kept.trans onward, .broken met⟩

/-- What the look-up of an account gives. -/
def lookingUpAccount (account : Text) (s : Session) : Attempt (List Anchor) :=
  s.attempt .execute (s.store.selectByAccount (s.isPrepared .selectByAccount) account)

inductive AccountFails (raw : Text) (s : Session) : Failure → Prop
  | unknown (nothing : lookingUpAccount raw.strip s = .ok []) :
    AccountFails raw s (.missingAccount raw.strip s.now)
  | ambiguous {first second : Anchor} {rest : List Anchor}
    (several : lookingUpAccount raw.strip s = .ok (first :: second :: rest)) :
    AccountFails raw s (.duplicated raw.strip s.now)
  | broken {reason : Failure} (met : lookingUpAccount raw.strip s = .error reason) :
    AccountFails raw s (reason.classified Operation.getAnchorByAccount.name s.now)

theorem getAnchorByAccount_ends (raw : Text) (s : Session) :
    (getAnchorByAccount raw).Ends s
      (fun anchor t => s.Keeps t ∧ lookingUpAccount raw.strip s = .ok [anchor])
      (fun failure t => s.Keeps t ∧ AccountFails raw s failure) := by
  have reached := keeps_reach s .execute .selectByAccount
  refine .bind (R := fun found t => s.Keeps t ∧ lookingUpAccount raw.strip s = .ok found) ?_ ?_
  · refine .guarded (F := fun failure t => s.Keeps t ∧
      lookingUpAccount raw.strip s = .error failure) ?_ ?_
    · exact .executeBinding (fun found gave => ⟨reached, gave⟩) fun failure met => ⟨reached, met⟩
    · rintro failure t u ⟨kept, met⟩ onward
      rw [kept.now]
      exact ⟨kept.trans onward, .broken met⟩
  · rintro found t ⟨kept, gave⟩
    match found with
    | [] =>
        refine .fail ⟨kept, ?_⟩
        rw [kept.now]
        exact .unknown gave
    | [anchor] => exact .pure ⟨kept, gave⟩
    | first :: second :: rest =>
        refine .log_bind (.fail ⟨kept.trans (keeps_note t _), ?_⟩)
        rw [(keeps_note t _).now, kept.now]
        exact .ambiguous gave

/-- What the list of an anchor's assets is made from; it is the second call of its operation. -/
def listing (owner : EntityId) (s : Session) : Attempt (List Asset) :=
  (s.count .execute).attempt .execute (s.store.selectAssets fun a => a.anchorId = owner)

inductive ListingFails (raw : Text) (s : Session) : Failure → Prop
  | lookup {failure : Failure} (fails : LookupFails raw s failure) : ListingFails raw s failure
  | broken {anchor : Anchor} {reason : Failure} (old : Found raw s anchor)
    (met : listing anchor.id s = .error reason) :
    ListingFails raw s (reason.classified Operation.listAssetsForAnchor.name s.now)

theorem listAssetsForAnchor_ends (raw : Text) (s : Session) :
    (listAssetsForAnchor raw).Ends s
      (fun assets t => s.Keeps t ∧ ∃ anchor found, Found raw s anchor ∧ listing anchor.id s = .ok found ∧
        assets = found.mergeSort Asset.before)
      (fun failure t => s.Keeps t ∧ ListingFails raw s failure) := by
  refine .bind ((getAnchorById_ends raw s).mono (fun anchor t looked => looked)
    fun failure t ⟨kept, fails⟩ => ⟨kept, .lookup fails⟩) ?_
  rintro anchor _ ⟨rfl, old⟩
  have counted := (keeps_count s .execute).trans (keeps_count (s.count .execute) .execute)
  refine .guarded (F := fun failure t => s.Keeps t ∧ listing anchor.id s = .error failure) ?_ ?_
  · refine .bind (R := fun found t => s.Keeps t ∧ listing anchor.id s = .ok found) ?_ ?_
    · exact .execute (fun found gave => ⟨counted, gave⟩) fun failure met => ⟨counted, met⟩
    · rintro found t ⟨kept, gave⟩
      exact .pure ⟨kept, anchor, found, old, gave, rfl⟩
  · rintro failure t u ⟨kept, met⟩ onward
    rw [kept.now]
    exact ⟨kept.trans onward, .broken old met⟩

end Repository

end AnchorRegistry
