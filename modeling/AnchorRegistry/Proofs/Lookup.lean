import AnchorRegistry.Proofs.Legal
import AnchorRegistry.Proofs.Settled

/-! Look-ups without faults. Identifiers are unique, so an anchor is found by every text that reads as its
identifier; accounts are unique too where the store says so, and then an anchor is found by every text that
strips to its account. A text that has an encoding and strips to no account is not found. -/

namespace AnchorRegistry

open Repository
open Http (Circumstances)

theorem Store.anchorTable_of_mem {store : Store} {a : Anchor} (member : a ∈ store.anchors) :
    store.anchorTable = some store.anchors := by
  cases table : store.anchorTable with
  | none =>
      have empty : store.anchors = [] := by
        rw [anchors, table]
        rfl
      rw [empty] at member
      cases member
  | some rows => rw [anchors_of_table table]

theorem Store.assetTable_of_mem {store : Store} {a : Asset} (member : a ∈ store.assets) :
    store.assetTable = some store.assets := by
  cases table : store.assetTable with
  | none =>
      have empty : store.assets = [] := by
        rw [assets, table]
        rfl
      rw [empty] at member
      cases member
  | some rows => rw [assets_of_table table]

namespace Repository

open Session

variable {s : Session} {rows : List Anchor}

theorem lookingUp_unfaulted (unfaulted : s.fault = none) (table : s.store.anchorTable = some rows) (id : EntityId) :
    lookingUp id s = .ok (rows.filter fun a => a.id = id) := by
  rw [lookingUp, attempt_unfaulted unfaulted, Store.selectAnchors_eq_ok]
  exact ⟨rows, table, rfl⟩

theorem lookingUpAccount_unfaulted (unfaulted : s.fault = none) (table : s.store.anchorTable = some rows)
    {account : Text} (storable : account.Storable) :
    lookingUpAccount account s = .ok (rows.filter fun a => a.accountReference = account) := by
  rw [lookingUpAccount, attempt_unfaulted unfaulted, Store.selectByAccount_eq_ok]
  exact ⟨rows, table, storable, rfl⟩

theorem readingAll_unfaulted (unfaulted : s.fault = none) (table : s.store.anchorTable = some rows) :
    readingAll s = .ok rows := by
  rw [readingAll, attempt_unfaulted unfaulted, Store.selectAnchors_eq_ok]
  exact ⟨rows, table, (List.filter_true rows).symm⟩

theorem listing_unfaulted (unfaulted : s.fault = none) {assets : List Asset} (table : s.store.assetTable = some assets)
    (owner : EntityId) : listing owner s = .ok (assets.filter fun a => a.anchorId = owner) := by
  have counted : (s.count .execute).fault = none := unfaulted
  rw [listing, attempt_unfaulted counted, Store.selectAssets_eq_ok]
  exact ⟨assets, table, rfl⟩

/-- Among rows with different keys a key selects the one row that has it. -/
theorem filter_key {κ : Type} [DecidableEq κ] (key : Anchor → κ) {anchor : Anchor} (keys : (rows.map key).Nodup)
    (member : anchor ∈ rows) : rows.filter (fun a => key a = key anchor) = [anchor] := by
  induction rows with
  | nil => cases member
  | cons a rest ih =>
      rw [List.map_cons, List.nodup_cons] at keys
      rcases List.mem_cons.1 member with rfl | later
      · have others : rest.filter (fun a => key a = key anchor) = [] := by
          rw [List.filter_eq_nil_iff]
          intro a among
          rw [decide_eq_true_eq]
          intro same
          exact keys.1 (same ▸ List.mem_map_of_mem among)
        rw [List.filter_cons_of_pos (by simp), others]
      · have other : key a ≠ key anchor := fun same => keys.1 (same ▸ List.mem_map_of_mem later)
        rw [List.filter_cons_of_neg (by simpa using other), ih keys.2 later]

/-- A look-up without a fault fails only for a text that names no stored anchor. -/
theorem LookupFails.unnamed {raw : Text} {failure : Failure} (fails : LookupFails raw s failure)
    (unfaulted : s.fault = none) (legal : s.store.Legal) :
    ∀ anchor ∈ s.store.anchors, EntityId.parse? raw ≠ some anchor.id := by
  intro anchor member read
  have table := Store.anchorTable_of_mem member
  cases fails with
  | malformed unread =>
      rw [unread] at read
      cases read
  | unknown read' nothing =>
      rw [read, Option.some.injEq] at read'
      rw [← read', lookingUp_unfaulted unfaulted table, filter_key Anchor.id legal.anchorIds member] at nothing
      cases nothing
  | broken read' met =>
      rw [lookingUp_unfaulted unfaulted table] at met
      cases met

namespace Invocation

variable {c : Circumstances} {connection : Connection} {raw : Text} {anchor : Anchor}

/-- What a look-up by identifier comes to is decided by what its one call gives. -/
theorem run_getAnchorById_eq {id : EntityId} {found : List Anchor} (read : EntityId.parse? raw = some id)
    (gave : lookingUp id (c.session connection) = .ok found) :
    ((getAnchorById raw).run c connection).1 =
      match found with
      | [] => .error (.missing raw c.now)
      | anchor :: _ => .ok (.anchor anchor) := by
  cases ran : (getAnchorById raw).run c connection with
  | mk result after =>
      cases result with
      | ok rows =>
          have returns := run_ok ran
          generalize after.store = store at returns
          cases returns with
          | getAnchorById old =>
              obtain ⟨id', rest, read', gave'⟩ := old
              rw [read, Option.some.injEq] at read'
              rw [← read', gave] at gave'
              cases gave'
              rfl
      | error failure =>
          have fails := (run_error ran).2
          cases fails with
          | malformed unread =>
              rw [read] at unread
              cases unread
          | unknown read' nothing =>
              rw [read, Option.some.injEq] at read'
              rw [← read', gave] at nothing
              cases nothing
              rfl
          | broken read' met =>
              rw [read, Option.some.injEq] at read'
              rw [← read', gave] at met
              cases met

/-- What a look-up of an account comes to is decided by what its one call gives. -/
theorem run_getAnchorByAccount_eq {found : List Anchor}
    (gave : lookingUpAccount raw.strip (c.session connection) = .ok found) :
    ((getAnchorByAccount raw).run c connection).1 =
      match found with
      | [] => .error (.missingAccount raw.strip c.now)
      | [anchor] => .ok (.anchor anchor)
      | _ => .error (.duplicated raw.strip c.now) := by
  cases ran : (getAnchorByAccount raw).run c connection with
  | mk result after =>
      cases result with
      | ok rows =>
          have returns := run_ok ran
          generalize after.store = store at returns
          cases returns with
          | getAnchorByAccount gave' =>
              rw [gave] at gave'
              cases gave'
              rfl
      | error failure =>
          have fails := (run_error ran).2
          cases fails with
          | unknown nothing =>
              rw [gave] at nothing
              cases nothing
              rfl
          | ambiguous several =>
              rw [gave] at several
              cases several
              rfl
          | broken met =>
              rw [gave] at met
              cases met

theorem run_getAnchorById (unfaulted : c.fault = none) (legal : connection.store.Legal)
    (member : anchor ∈ connection.store.anchors) (read : EntityId.parse? raw = some anchor.id) :
    ((getAnchorById raw).run c connection).1 = .ok (.anchor anchor) := by
  have found : lookingUp anchor.id (c.session connection) = .ok [anchor] := by
    rw [lookingUp_unfaulted unfaulted (Store.anchorTable_of_mem member)]
    exact congrArg Except.ok (filter_key Anchor.id legal.anchorIds member)
  exact run_getAnchorById_eq read found

theorem run_getAnchorByAccount (unfaulted : c.fault = none) (legal : connection.store.Legal)
    (settled : connection.store.Settled) (unique : connection.store.uniqueAccounts)
    (member : anchor ∈ connection.store.anchors) (same : raw.strip = anchor.accountReference) :
    ((getAnchorByAccount raw).run c connection).1 = .ok (.anchor anchor) := by
  have storable : anchor.accountReference.Storable := (settled.anchors anchor member).storable _ List.mem_cons_self
  have found : lookingUpAccount raw.strip (c.session connection) = .ok [anchor] := by
    rw [same, lookingUpAccount_unfaulted unfaulted (Store.anchorTable_of_mem member) storable]
    exact congrArg Except.ok (filter_key Anchor.accountReference (legal.accounts unique) member)
  exact run_getAnchorByAccount_eq found

theorem run_getAnchorByAccount_missing (unfaulted : c.fault = none) {rows : List Anchor}
    (table : connection.store.anchorTable = some rows) (storable : raw.Storable)
    (none : ∀ a ∈ rows, a.accountReference ≠ raw.strip) :
    ((getAnchorByAccount raw).run c connection).1 = .error (.missingAccount raw.strip c.now) := by
  have found : lookingUpAccount raw.strip (c.session connection) = .ok [] := by
    rw [lookingUpAccount_unfaulted unfaulted table ((Text.storable_strip raw).2 storable)]
    refine congrArg Except.ok (List.filter_eq_nil_iff.2 fun a member => ?_)
    rw [decide_eq_true_eq]
    exact none a member
  exact run_getAnchorByAccount_eq found

end Invocation

end Repository

end AnchorRegistry
