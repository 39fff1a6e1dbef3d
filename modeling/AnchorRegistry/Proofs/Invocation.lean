import AnchorRegistry.Http.Service
import AnchorRegistry.Proofs.Refusal

/-! Calls of the operations with their arguments. A call in a session of its own returns rows or fails, and
leaves a connection. What it returns and the store it leaves are tied together by `Returns`, one constructor
for each operation; where it fails the store is the one it met, and the failure is always classified or
unforeseen, never a bare fault of the store. -/

namespace AnchorRegistry

namespace Action

variable {α β : Type} {act : Action α} {s : Session} {fails : Failure → Session → Prop}

/-- What an action returns may be told in another way. -/
theorem Ends.map {returns : α → Session → Prop} {tells : β → Session → Prop} {f : α → β}
    (ends : act.Ends s returns fails) (told : ∀ a t, returns a t → tells (f a) t) :
    (f <$> act).Ends s tells fails := by
  unfold Ends at ends ⊢
  rw [map_apply]
  cases run : act s with
  | mk result t =>
      rw [run] at ends
      cases result with
      | ok a => exact told a t ends
      | error failure => exact ends

theorem inSession_map (f : α → β) (act : Action α) : (f <$> act).inSession = f <$> act.inSession := by
  funext s
  rw [map_apply]
  unfold inSession
  rw [map_apply]
  cases run : act s with
  | mk result t => rcases result with (_ | _ | _) | _ <;> rfl

/-- A session of its own changes nothing for an action that leaves no bare fault of the store. -/
theorem inSession_eq {returns : α → Session → Prop} (ends : act.Ends s returns fails)
    (classified : ∀ failure t, fails failure t → ∀ fault, failure ≠ .storage fault) :
    act.inSession s = act s := by
  unfold Ends at ends
  unfold inSession
  cases run : act s with
  | mk result t =>
      rw [run] at ends
      rcases result with (error | fault | reason) | a
      case error.storage => exact (classified _ _ ends fault rfl).elim
      all_goals rfl

end Action

namespace Repository

/-- A call of an operation with its arguments. -/
inductive Invocation where
  | createAnchor (p : Payload.NewAnchor)
  | listAnchors
  | getAnchorById (raw : Text)
  | getAnchorByAccount (raw : Text)
  | updateAnchorMetrics (raw : Text) (p : Payload.MetricsUpdate)
  | createAsset (raw : Text) (p : Payload.NewAsset)
  | listAssetsForAnchor (raw : Text)
deriving DecidableEq

/-- What a call can return. -/
inductive Rows where
  | anchor (row : Anchor)
  | anchors (rows : List Anchor)
  | asset (row : Asset)
  | assets (rows : List Asset)
deriving DecidableEq

namespace Invocation

def action : Invocation → Action Rows
  | createAnchor p => .anchor <$> Repository.createAnchor p
  | listAnchors => .anchors <$> Repository.listAnchors
  | getAnchorById raw => .anchor <$> Repository.getAnchorById raw
  | getAnchorByAccount raw => .anchor <$> Repository.getAnchorByAccount raw
  | updateAnchorMetrics raw p => .anchor <$> Repository.updateAnchorMetrics raw p
  | createAsset raw p => .asset <$> Repository.createAsset raw p
  | listAssetsForAnchor raw => .assets <$> Repository.listAssetsForAnchor raw

/-- What a call returns from a session, and the store that it leaves. -/
inductive Returns (s : Session) : Invocation → Rows → Store → Prop
  | createAnchor {p : Payload.NewAnchor} {after : Store} (valid : p.violation = none)
    (written : registering p s = .ok after) :
    Returns s (createAnchor p) (.anchor (anchorRow p s.freshId s.now)) after
  | listAnchors {found : List Anchor} (gave : readingAll s = .ok found) :
    Returns s listAnchors (.anchors (found.mergeSort Anchor.before)) s.store
  | getAnchorById {raw : Text} {anchor : Anchor} (found : Found raw s anchor) :
    Returns s (getAnchorById raw) (.anchor anchor) s.store
  | getAnchorByAccount {raw : Text} {anchor : Anchor} (gave : lookingUpAccount raw.strip s = .ok [anchor]) :
    Returns s (getAnchorByAccount raw) (.anchor anchor) s.store
  | updateAnchorMetrics {raw : Text} {p : Payload.MetricsUpdate} {anchor : Anchor} {after : Store}
    (valid : p.violation = none) (old : Found raw s anchor) (consistent : (anchor.metrics.merge p).violation = none)
    (written : merging (updatedRow anchor p s.now) s = .ok after) :
    Returns s (updateAnchorMetrics raw p) (.anchor (updatedRow anchor p s.now)) after
  | createAsset {raw : Text} {p : Payload.NewAsset} {anchor : Anchor} {after : Store} (valid : p.violation = none)
    (old : Found raw s anchor) (written : adding (assetRow p anchor.id s.freshId s.now) s = .ok after) :
    Returns s (createAsset raw p) (.asset (assetRow p anchor.id s.freshId s.now)) after
  | listAssetsForAnchor {raw : Text} {anchor : Anchor} {found : List Asset} (old : Found raw s anchor)
    (gave : listing anchor.id s = .ok found) :
    Returns s (listAssetsForAnchor raw) (.assets (found.mergeSort Asset.before)) s.store

/-- How a call fails from a session. -/
def Fails (s : Session) : Invocation → Failure → Prop
  | createAnchor p => CreateFails p s
  | listAnchors => ListFails s
  | getAnchorById raw => LookupFails raw s
  | getAnchorByAccount raw => AccountFails raw s
  | updateAnchorMetrics raw p => UpdateFails raw p s
  | createAsset raw p => AssetFails raw p s
  | listAssetsForAnchor raw => ListingFails raw s

theorem action_ends (invocation : Invocation) (s : Session) :
    invocation.action.Ends s (fun rows t => Returns s invocation rows t.store)
      (fun failure t => s.Keeps t ∧ invocation.Fails s failure) := by
  cases invocation with
  | createAnchor p =>
      apply (createAnchor_ends p s).map
      rintro _ t ⟨-, valid, rfl, written⟩
      exact .createAnchor valid written
  | listAnchors =>
      apply (listAnchors_ends s).map
      rintro _ t ⟨kept, found, gave, rfl⟩
      rw [kept.store]
      exact .listAnchors gave
  | getAnchorById raw =>
      apply (getAnchorById_ends raw s).map
      rintro anchor _ ⟨rfl, found⟩
      exact .getAnchorById found
  | getAnchorByAccount raw =>
      apply (getAnchorByAccount_ends raw s).map
      rintro anchor t ⟨kept, gave⟩
      rw [kept.store]
      exact .getAnchorByAccount gave
  | updateAnchorMetrics raw p =>
      apply (updateAnchorMetrics_ends raw p s).map
      rintro _ t ⟨-, valid, anchor, old, consistent, rfl, written⟩
      exact .updateAnchorMetrics valid old consistent written
  | createAsset raw p =>
      apply (createAsset_ends raw p s).map
      rintro _ t ⟨-, valid, anchor, old, rfl, written⟩
      exact .createAsset valid old written
  | listAssetsForAnchor raw =>
      apply (listAssetsForAnchor_ends raw s).map
      rintro _ t ⟨kept, anchor, found, old, gave, rfl⟩
      rw [kept.store]
      exact .listAssetsForAnchor old gave

/-- Every failure of an operation was raised by it or classified by it. -/
theorem Fails.classified {invocation : Invocation} {s : Session} {failure : Failure}
    (fails : invocation.Fails s failure) : Classified s failure := by
  cases invocation with
  | createAnchor p =>
      cases fails with
      | refused found => exact .raised (Int.le_refl 400)
      | taken valid rejected => exact .raised (by decide : (400 : Int) ≤ 409)
      | broken valid met other => exact .of_attempt (Store.unclassified_insertAnchor _ _ _) met
  | listAnchors =>
      cases fails with
      | broken met => exact .of_attempt (Store.unclassified_selectAnchors _ _) met
  | getAnchorById raw => exact LookupFails.classified fails
  | getAnchorByAccount raw =>
      cases fails with
      | unknown nothing => exact .raised (by decide : (400 : Int) ≤ 404)
      | ambiguous several => exact .raised (by decide : (400 : Int) ≤ 500)
      | broken met => exact .of_attempt (Store.unclassified_selectByAccount _ _ _) met
  | updateAnchorMetrics raw p =>
      cases fails with
      | lookup valid fails => exact fails.classified
      | broken valid old consistent met => exact .of_attempt (Store.unclassified_updateAnchor _ _) met
      | _ => exact .raised (Int.le_refl 400)
  | createAsset raw p =>
      cases fails with
      | lookup fails => exact fails.classified
      | refused old found => exact .raised (Int.le_refl 400)
      | rejected old valid met => exact .raised (by decide : (400 : Int) ≤ 404)
      | broken old valid met other => exact .of_attempt (Store.unclassified_insertAsset _ _ _) met
  | listAssetsForAnchor raw =>
      cases fails with
      | lookup fails => exact fails.classified
      | broken old met =>
          -- the look-up of the anchor is the call that went before
          exact Classified.of_count (.of_attempt (Store.unclassified_selectAssets _ _) met)

/-- What a call in a session of its own returns or fails with, and the connection that it leaves. -/
def run (invocation : Invocation) (c : Http.Circumstances) (connection : Connection) :
    Except Failure Rows × Connection :=
  let (result, session) := invocation.action.inSession (c.session connection)
  (result, session.toConnection)

variable {invocation : Invocation} {c : Http.Circumstances} {connection after : Connection}

theorem inSession_action (invocation : Invocation) (s : Session) :
    invocation.action.inSession s = invocation.action s :=
  Action.inSession_eq (action_ends invocation s) fun _ _ fails => fails.2.classified.ne_storage

theorem run_ok {rows : Rows} (ran : invocation.run c connection = (.ok rows, after)) :
    Returns (c.session connection) invocation rows after.store := by
  have ends := action_ends invocation (c.session connection)
  rw [run, inSession_action] at ran
  cases outcome : invocation.action (c.session connection) with
  | mk result t =>
      rw [outcome] at ran
      cases ran
      exact ends.ok outcome

/-- The same of the two parts of what a run gives. -/
theorem returns_of_run {rows : Rows} (returned : (invocation.run c connection).1 = .ok rows) :
    Returns (c.session connection) invocation rows (invocation.run c connection).2.store :=
  run_ok (Prod.ext returned rfl)

theorem run_error {failure : Failure} (ran : invocation.run c connection = (.error failure, after)) :
    after.store = connection.store ∧ invocation.Fails (c.session connection) failure := by
  have ends := action_ends invocation (c.session connection)
  rw [run, inSession_action] at ran
  cases outcome : invocation.action (c.session connection) with
  | mk result t =>
      rw [outcome] at ran
      cases ran
      have failed := ends.error outcome
      exact ⟨failed.1.store, failed.2⟩

end Invocation

end Repository

end AnchorRegistry
