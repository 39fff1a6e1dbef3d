import AnchorRegistry.Proofs.Listing

/-! What a call comes to where nothing is in its way. On tables that are there and without a fault, the outcome of a
call depends on the rows, the time and the fresh identifier alone, and `outcome` computes it: which check comes first,
what is looked for, and what is returned or told. No prepared statement, count of calls or log has a part in it. -/

namespace AnchorRegistry

open Repository
open Http (Circumstances)

namespace Store

/-- The anchor that a text names. -/
def named? (store : Store) (raw : Text) : Option Anchor :=
  (EntityId.parse? raw).bind fun id => store.anchors.find? fun a => a.id = id

/-- The anchor that a text names, or the failure that there is none. -/
def lookUp (store : Store) (raw : Text) (now : Instant) : Except Failure Anchor :=
  match store.named? raw with
  | some anchor => .ok anchor
  | none => .error (.missing raw now)

/-- Fails if a check found a violation. -/
def refusing (violation : Option Violation) (anchorId : Option Text) (now : Instant) : Except Failure Unit :=
  match violation with
  | some v => .error (.refused v anchorId now)
  | none => .ok ()

/-- What a call comes to. -/
def outcome (store : Store) (c : Circumstances) : Invocation → Except Failure Rows
  | .createAnchor p => do
    refusing p.violation none c.now
    let row := anchorRow p c.freshId c.now
    encodable row.texts
    if admitsAnchor store.uniqueAccounts store.anchors row then return .anchor row
    else throw (.taken row.accountReference c.now)
  | .listAnchors => return .anchors store.listed
  | .getAnchorById raw => do return .anchor (← store.lookUp raw c.now)
  | .getAnchorByAccount raw => do
    encodable [raw.strip]
    match store.anchors.filter fun a => a.accountReference = raw.strip with
    | [] => throw (.missingAccount raw.strip c.now)
    | [anchor] => return .anchor anchor
    | _ => throw (.duplicated raw.strip c.now)
  | .updateAnchorMetrics raw p => do
    refusing p.violation (some raw) c.now
    let anchor ← store.lookUp raw c.now
    refusing (anchor.metrics.merge p).violation (some anchor.id.toText) c.now
    return .anchor (updatedRow anchor p c.now)
  | .createAsset raw p => do
    let owner := (← store.lookUp raw c.now).id
    refusing p.violation (some owner.toText) c.now
    let row := assetRow p owner c.freshId c.now
    encodable row.texts
    if admitsAsset store.anchors store.assets row then return .asset row
    else throw (.missing raw c.now)
  | .listAssetsForAnchor raw => do return .assets (store.owned (← store.lookUp raw c.now).id)

variable {store : Store} {raw : Text} {now : Instant}

/-- Among anchors with different identifiers the first with an identifier is the only one. -/
theorem find?_id {rows : List Anchor} (ids : (rows.map Anchor.id).Nodup) {id : EntityId} {anchor : Anchor} :
    (rows.find? fun a => a.id = id) = some anchor ↔ anchor ∈ rows ∧ anchor.id = id := by
  constructor
  · intro found
    exact ⟨List.mem_of_find?_eq_some found, by simpa using List.find?_some found⟩
  · rintro ⟨member, rfl⟩
    rw [← List.head?_filter, filter_key Anchor.id ids member, List.head?_cons]

theorem named?_eq_some (legal : store.Legal) {anchor : Anchor} :
    store.named? raw = some anchor ↔ anchor ∈ store.anchors ∧ EntityId.parse? raw = some anchor.id := by
  unfold named?
  rw [Option.bind_eq_some_iff]
  constructor
  · rintro ⟨id, read, found⟩
    obtain ⟨member, rfl⟩ := (find?_id legal.anchorIds).1 found
    exact ⟨member, read⟩
  · rintro ⟨member, read⟩
    exact ⟨anchor.id, read, (find?_id legal.anchorIds).2 ⟨member, rfl⟩⟩

theorem named?_eq_none (legal : store.Legal) :
    store.named? raw = none ↔ ∀ anchor ∈ store.anchors, EntityId.parse? raw ≠ some anchor.id := by
  rw [Option.eq_none_iff_forall_ne_some]
  constructor
  · intro nothing anchor member read
    exact nothing anchor ((named?_eq_some legal).2 ⟨member, read⟩)
  · intro unnamed anchor found
    obtain ⟨member, read⟩ := (named?_eq_some legal).1 found
    exact unnamed anchor member read

theorem lookUp_of_some {anchor : Anchor} (found : store.named? raw = some anchor) :
    store.lookUp raw now = .ok anchor := by
  rw [lookUp, found]

theorem lookUp_of_none (nothing : store.named? raw = none) : store.lookUp raw now = .error (.missing raw now) := by
  rw [lookUp, nothing]

end Store

/-- Nothing is planned to fail, and both tables are there and hold what they should. -/
structure Http.Circumstances.Ready (c : Circumstances) (connection : Connection) : Prop where
  unfaulted : c.fault = none
  anchorTable : connection.store.anchorTable = some connection.store.anchors
  assetTable : connection.store.assetTable = some connection.store.assets
  legal : connection.store.Legal

namespace Repository

variable {c : Circumstances} {connection : Connection} {raw : Text} {failure : Failure}

theorem registering_eq_ok {p : Payload.NewAnchor} {after : Store}
    (written : registering p (c.session connection) = .ok after) :
    Store.encodable (anchorRow p c.freshId c.now).texts = .ok () ∧ Store.admitsAnchor connection.store.uniqueAccounts
      connection.store.anchors (anchorRow p c.freshId c.now) = true := by
  obtain ⟨rows, table, storable, admitted, -⟩ := Store.insertAnchor_eq_ok.1 (Session.eq_ok_of_attempt written)
  rw [← Store.anchors_of_table table] at admitted
  exact ⟨Store.encodable_eq_ok.2 storable, admitted⟩

theorem adding_eq_ok {p : Payload.NewAsset} {owner : EntityId} {after : Store}
    (written : adding (assetRow p owner c.freshId c.now) (c.session connection) = .ok after) :
    Store.encodable (assetRow p owner c.freshId c.now).texts = .ok () ∧ Store.admitsAsset connection.store.anchors
      connection.store.assets (assetRow p owner c.freshId c.now) = true := by
  obtain ⟨rows, owners, table, anchors, storable, admitted, -⟩ :=
    Store.insertAsset_eq_ok.1 (Session.eq_ok_of_attempt written)
  rw [← Store.assets_of_table table, ← Store.anchors_of_table anchors] at admitted
  exact ⟨Store.encodable_eq_ok.2 storable, admitted⟩

theorem lookingUpAccount_eq_ok {account : Text} {found : List Anchor}
    (gave : lookingUpAccount account (c.session connection) = .ok found) : Store.encodable [account] = .ok () ∧
      (connection.store.anchors.filter fun a => a.accountReference = account) = found := by
  obtain ⟨rows, table, storable, same⟩ := Store.selectByAccount_eq_ok.1 (Session.eq_ok_of_attempt gave)
  rw [← Store.anchors_of_table table] at same
  exact ⟨Store.encodable_eq_ok.2 (List.forall_mem_singleton.2 storable), same.symm⟩

/-- A failure to bind a text is not classified. -/
theorem classified_of_encodable {texts : List Text} (unencodable : Store.encodable texts = .error failure)
    (operation : Text) (now : Instant) : failure.classified operation now = failure := by
  obtain ⟨t, -, -, rfl⟩ := Store.encodable_eq_error unencodable
  rfl

section Ready

variable (ready : c.Ready connection)

include ready

theorem lookUp_of_found {anchor : Anchor} (found : Found raw (c.session connection) anchor) :
    connection.store.lookUp raw c.now = .ok anchor :=
  Store.lookUp_of_some ((Store.named?_eq_some ready.legal).2 found.mem)

theorem LookupFails.lookUp (fails : LookupFails raw (c.session connection) failure) :
    connection.store.lookUp raw c.now = .error failure := by
  have nothing := (Store.named?_eq_none ready.legal).2 (fails.unnamed ready.unfaulted ready.legal)
  rw [Store.lookUp_of_none nothing]
  cases fails with
  | malformed unread => rfl
  | unknown read found => rfl
  | broken read met =>
      rw [lookingUp_unfaulted ready.unfaulted ready.anchorTable] at met
      cases met

theorem registering_eq_error {p : Payload.NewAnchor} (met : registering p (c.session connection) = .error failure) :
    Store.encodable (anchorRow p c.freshId c.now).texts = .error failure ∨
      Store.encodable (anchorRow p c.freshId c.now).texts = .ok () ∧
        Store.admitsAnchor connection.store.uniqueAccounts connection.store.anchors
          (anchorRow p c.freshId c.now) = false ∧ failure = .storage .integrity := by
  have unfaulted : (c.session connection).fault = none := ready.unfaulted
  rw [registering, Session.attempt_unfaulted unfaulted] at met
  rcases Store.insertAnchor_eq_error ready.anchorTable met with unencodable | ⟨storable, refused, same⟩
  · exact .inl unencodable
  · exact .inr ⟨Store.encodable_eq_ok.2 storable, Bool.eq_false_iff.2 refused, same⟩

theorem adding_eq_error {p : Payload.NewAsset} {owner : EntityId}
    (met : adding (assetRow p owner c.freshId c.now) (c.session connection) = .error failure) :
    Store.encodable (assetRow p owner c.freshId c.now).texts = .error failure ∨
      Store.encodable (assetRow p owner c.freshId c.now).texts = .ok () ∧
        Store.admitsAsset connection.store.anchors connection.store.assets (assetRow p owner c.freshId c.now) = false ∧
          failure = .storage .integrity := by
  have unfaulted : (c.session connection).fault = none := ready.unfaulted
  rw [adding, Session.attempt_unfaulted unfaulted] at met
  rcases Store.insertAsset_eq_error ready.assetTable ready.anchorTable met with unencodable | ⟨storable, refused, same⟩
  · exact .inl unencodable
  · exact .inr ⟨Store.encodable_eq_ok.2 storable, Bool.eq_false_iff.2 refused, same⟩

theorem lookingUpAccount_eq_error {account : Text}
    (met : lookingUpAccount account (c.session connection) = .error failure) :
    Store.encodable [account] = .error failure := by
  have unfaulted : (c.session connection).fault = none := ready.unfaulted
  rw [lookingUpAccount, Session.attempt_unfaulted unfaulted] at met
  obtain ⟨unstorable, rfl⟩ := Store.selectByAccount_eq_error ready.anchorTable met
  have first : [account].find? (fun t => !decide t.Storable) = some account := by simp [unstorable]
  rw [Store.encodable, first]

theorem Invocation.Returns.outcome {invocation : Invocation} {rows : Rows} {after : Store}
    (returns : Returns (c.session connection) invocation rows after) :
    connection.store.outcome c invocation = .ok rows := by
  cases returns with
  | createAnchor valid written =>
      obtain ⟨encoded, admitted⟩ := registering_eq_ok written
      simp only [Store.outcome, Store.refusing, valid, encoded, admitted, if_true, bind, Except.bind]
      rfl
  | listAnchors gave =>
      rw [readingAll_unfaulted ready.unfaulted ready.anchorTable] at gave
      cases gave
      rfl
  | getAnchorById found =>
      simp only [Store.outcome, lookUp_of_found ready found]
      rfl
  | getAnchorByAccount gave =>
      obtain ⟨encoded, found⟩ := lookingUpAccount_eq_ok gave
      simp only [Store.outcome, encoded, found, bind, Except.bind]
      rfl
  | updateAnchorMetrics valid old consistent written =>
      simp only [Store.outcome, Store.refusing, valid, lookUp_of_found ready old, consistent, bind, Except.bind]
      rfl
  | createAsset valid old written =>
      obtain ⟨encoded, admitted⟩ := adding_eq_ok written
      simp only [Store.outcome, Store.refusing, valid, lookUp_of_found ready old, encoded, admitted, if_true, bind,
        Except.bind]
      rfl
  | listAssetsForAnchor old gave =>
      rw [listing_unfaulted ready.unfaulted ready.assetTable] at gave
      cases gave
      simp only [Store.outcome, lookUp_of_found ready old]
      rfl

theorem CreateFails.outcome {p : Payload.NewAnchor} (fails : CreateFails p (c.session connection) failure) :
    connection.store.outcome c (.createAnchor p) = .error failure := by
  cases fails with
  | refused found =>
      simp only [Store.outcome, Store.refusing, found]
      rfl
  | taken valid rejected =>
      rcases registering_eq_error ready rejected with unencodable | ⟨encoded, refused, -⟩
      · obtain ⟨t, -, -, impossible⟩ := Store.encodable_eq_error unencodable
        cases impossible
      · simp only [Store.outcome, Store.refusing, valid, encoded, refused, bind, Except.bind]
        rfl
  | broken valid met other =>
      rcases registering_eq_error ready met with unencodable | ⟨-, -, same⟩
      · simp only [Store.outcome, Store.refusing, valid, unencodable, bind, Except.bind]
        rw [classified_of_encodable unencodable]
      · exact absurd same other

theorem UpdateFails.outcome {p : Payload.MetricsUpdate} (fails : UpdateFails raw p (c.session connection) failure) :
    connection.store.outcome c (.updateAnchorMetrics raw p) = .error failure := by
  cases fails with
  | refused found =>
      simp only [Store.outcome, Store.refusing, found]
      rfl
  | lookup valid fails =>
      simp only [Store.outcome, Store.refusing, valid, fails.lookUp ready, bind, Except.bind]
  | inconsistent valid old found =>
      simp only [Store.outcome, Store.refusing, valid, lookUp_of_found ready old, found, bind, Except.bind]
      rfl
  | broken valid old consistent met =>
      have unfaulted : (c.session connection).fault = none := ready.unfaulted
      have table : (c.session connection).store.anchorTable = some connection.store.anchors := ready.anchorTable
      rw [merging, Session.attempt_unfaulted unfaulted, Store.updateAnchor_eq_ok.2 ⟨_, table, rfl⟩] at met
      cases met

theorem AssetFails.outcome {p : Payload.NewAsset} (fails : AssetFails raw p (c.session connection) failure) :
    connection.store.outcome c (.createAsset raw p) = .error failure := by
  cases fails with
  | lookup fails => simp only [Store.outcome, fails.lookUp ready, bind, Except.bind]
  | refused old found =>
      simp only [Store.outcome, Store.refusing, lookUp_of_found ready old, found, bind, Except.bind]
      rfl
  | rejected old valid met =>
      rcases adding_eq_error ready met with unencodable | ⟨encoded, refused, -⟩
      · obtain ⟨t, -, -, impossible⟩ := Store.encodable_eq_error unencodable
        cases impossible
      · simp only [Store.outcome, Store.refusing, lookUp_of_found ready old, valid, encoded, refused, bind, Except.bind]
        rfl
  | broken old valid met other =>
      rcases adding_eq_error ready met with unencodable | ⟨-, -, same⟩
      · simp only [Store.outcome, Store.refusing, lookUp_of_found ready old, valid, unencodable, bind, Except.bind]
        rw [classified_of_encodable unencodable]
      · exact absurd same other

theorem AccountFails.outcome (fails : AccountFails raw (c.session connection) failure) :
    connection.store.outcome c (.getAnchorByAccount raw) = .error failure := by
  cases fails with
  | unknown nothing =>
      obtain ⟨encoded, found⟩ := lookingUpAccount_eq_ok nothing
      simp only [Store.outcome, encoded, found, bind, Except.bind]
      rfl
  | ambiguous several =>
      obtain ⟨encoded, found⟩ := lookingUpAccount_eq_ok several
      simp only [Store.outcome, encoded, found, bind, Except.bind]
      rfl
  | broken met =>
      have unencodable := lookingUpAccount_eq_error ready met
      simp only [Store.outcome, unencodable, bind, Except.bind]
      rw [classified_of_encodable unencodable]

theorem Invocation.Fails.outcome {invocation : Invocation} (fails : invocation.Fails (c.session connection) failure) :
    connection.store.outcome c invocation = .error failure := by
  cases invocation with
  | createAnchor p => exact CreateFails.outcome ready fails
  | listAnchors =>
      cases fails with
      | broken met =>
          rw [readingAll_unfaulted ready.unfaulted ready.anchorTable] at met
          cases met
  | getAnchorById raw =>
      simp only [Store.outcome, LookupFails.lookUp ready fails]
      rfl
  | getAnchorByAccount raw => exact AccountFails.outcome ready fails
  | updateAnchorMetrics raw p => exact UpdateFails.outcome ready fails
  | createAsset raw p => exact AssetFails.outcome ready fails
  | listAssetsForAnchor raw =>
      cases fails with
      | lookup fails =>
          simp only [Store.outcome, fails.lookUp ready]
          rfl
      | broken old met =>
          rw [listing_unfaulted ready.unfaulted ready.assetTable] at met
          cases met

/-- Without a fault, on tables that are there, a call comes to its outcome. -/
theorem Invocation.run_outcome (invocation : Invocation) :
    (invocation.run c connection).1 = connection.store.outcome c invocation := by
  cases ran : invocation.run c connection with
  | mk result after =>
      cases result with
      | ok rows => exact ((run_ok ran).outcome ready).symm
      | error failure => exact ((run_error ran).2.outcome ready).symm

end Ready

end Repository

end AnchorRegistry
