import AnchorRegistry.Proofs.Http.Logged
import AnchorRegistry.Proofs.Listing

/-! The anchors of an account. Where accounts need not be unique, several registrations can win one account, and each
leaves an anchor that holds it. A registration and a look-up strip their texts alike, so the holders that a look-up
meets are the registrations under every spelling of the account. A look-up returns a sole holder, misses an account
without one, and of several it picks none: it raises a critical alarm and says that an invariant is broken. -/

namespace AnchorRegistry

open Repository (Invocation Rows lookingUpAccount)
open Http (Circumstances)

namespace Store

/-- The anchors of an account. -/
def holders (store : Store) (account : Text) : List Anchor :=
  store.anchors.filter fun a => a.accountReference = account

variable {store : Store} {account : Text}

theorem mem_holders {a : Anchor} : a ∈ store.holders account ↔ a ∈ store.anchors ∧ a.accountReference = account := by
  rw [holders, List.mem_filter, decide_eq_true_eq]

/-- No anchor has the empty account. -/
theorem holders_nil (legal : store.Legal) : store.holders [] = [] := by
  refine List.eq_nil_iff_forall_not_mem.2 fun a member => ?_
  obtain ⟨stored, blank⟩ := mem_holders.1 member
  exact (legal.anchors a stored).accountReference.nonempty blank

/-- The holders of an account are the anchors that were registered under it, in the order in which they were. -/
theorem Lists.holders {past : List Event} (lists : store.Lists past) (account : Text) :
    (store.holders account).map Anchor.id =
      ((past.filterMap Event.registered?).filter fun row => row.accountReference = account).map Anchor.id := by
  let key (a : Anchor) : EntityId × Text := (a.id, a.accountReference)
  have kept : (past.filterMap Event.registered?).map key = store.anchors.map key := by
    suffices pairs : List.Forall₂ (· = ·) ((past.filterMap Event.registered?).map key) (store.anchors.map key) by
      rwa [List.forall₂_eq_eq_eq] at pairs
    rw [List.forall₂_map_left_iff, List.forall₂_map_right_iff]
    refine lists.anchors.imp fun row a remeasured => ?_
    obtain ⟨metrics, updatedAt, rfl⟩ := remeasured
    rfl
  have chosen (rows : List Anchor) : (rows.filter fun a => a.accountReference = account).map Anchor.id =
      ((rows.map key).filter fun k => k.2 = account).map Prod.fst := by
    rw [List.filter_map, List.map_map]
    rfl
  rw [Store.holders, chosen, ← kept, ← chosen]

end Store

/-- What the repository logs of an account with several anchors. -/
def duplicateRecord (account : Text) (count : Nat) : Log.Record where
  level := .critical
  source := Log.Source.repository.name
  message := Text.ofNat count ++ (" anchors share one account reference" : Text)
  extras := { accountReference := some account, errorCode := some "INVARIANT_VIOLATION" }

namespace Repository

open AnchorRegistry.Action

theorem guarded_of_ok {α : Type} {act : Action α} {s t : Session} {a : α} (ran : act s = (.ok a, t))
    (operation : Text) : guarded operation act s = (.ok a, t) := by
  unfold guarded
  rw [ran]

/-- Several anchors of one account are reported before the look-up fails. -/
theorem getAnchorByAccount_of_several {s : Session} {raw : Text} {found : List Anchor} (several : 2 ≤ found.length)
    (gave : lookingUpAccount raw.strip s = .ok found) :
    getAnchorByAccount raw s = (.error (.duplicated raw.strip s.now),
      (s.reach .execute .selectByAccount).note (duplicateRecord raw.strip found.length)) := by
  have looked : guarded Operation.getAnchorByAccount.name (executeBinding .selectByAccount fun prepared store =>
      store.selectByAccount prepared raw.strip) s = (.ok found, s.reach .execute .selectByAccount) := by
    refine guarded_of_ok ?_ _
    rw [executeBinding_apply]
    exact congrArg (·, _) gave
  have same : (s.reach .execute .selectByAccount).now = s.now := (Session.keeps_reach s _ _).now
  unfold getAnchorByAccount
  rw [bind_of_ok looked]
  match found, several with
  | first :: second :: rest, _ =>
      rw [← same]
      rfl

namespace Invocation

open Http

variable {c : Circumstances} {connection : Connection} {a : Text}

/-- A look-up of an account never changes the store, whatever it comes to. -/
theorem store_getAnchorByAccount (a : Text) (c : Circumstances) (connection : Connection) :
    ((getAnchorByAccount a).run c connection).2.store = connection.store := by
  cases ran : (getAnchorByAccount a).run c connection with
  | mk result after =>
      cases result with
      | error failure => exact (run_error ran).1
      | ok rows =>
          have returns := run_ok ran
          simp only
          generalize after.store = store at returns ⊢
          cases returns with
          | getAnchorByAccount gave => rfl

section Unfaulted

variable (unfaulted : c.fault = none) (anchorTable : connection.store.hasTable .insertAnchor) (storable : a.Storable)

include unfaulted anchorTable storable

theorem lookingUpAccount_holders :
    lookingUpAccount a.strip (c.session connection) = .ok (connection.store.holders a.strip) :=
  lookingUpAccount_unfaulted unfaulted (Store.anchorTable_of_hasTable anchorTable) ((Text.storable_strip a).2 storable)

/-- A row is returned when it is the sole holder. -/
theorem run_getAnchorByAccount_eq_ok (anchor : Anchor) :
    ((getAnchorByAccount a).run c connection).1 = .ok (.anchor anchor) ↔
      connection.store.holders a.strip = [anchor] := by
  have gave := lookingUpAccount_holders unfaulted anchorTable storable
  generalize connection.store.holders a.strip = found at gave ⊢
  rw [run_getAnchorByAccount_eq gave]
  rcases found with _ | ⟨first, _ | ⟨second, rest⟩⟩ <;> simp

theorem run_getAnchorByAccount_eq_missing :
    ((getAnchorByAccount a).run c connection).1 = .error (.missingAccount a.strip c.now) ↔
      connection.store.holders a.strip = [] := by
  have gave := lookingUpAccount_holders unfaulted anchorTable storable
  generalize connection.store.holders a.strip = found at gave ⊢
  rw [run_getAnchorByAccount_eq gave]
  rcases found with _ | ⟨first, _ | ⟨second, rest⟩⟩ <;>
    simp [Failure.missingAccount, Failure.duplicated]

theorem run_getAnchorByAccount_eq_duplicated :
    ((getAnchorByAccount a).run c connection).1 = .error (.duplicated a.strip c.now) ↔
      2 ≤ (connection.store.holders a.strip).length := by
  have gave := lookingUpAccount_holders unfaulted anchorTable storable
  generalize connection.store.holders a.strip = found at gave ⊢
  rw [run_getAnchorByAccount_eq gave]
  rcases found with _ | ⟨first, _ | ⟨second, rest⟩⟩ <;>
    simp [Failure.missingAccount, Failure.duplicated]

variable (several : 2 ≤ (connection.store.holders a.strip).length)

include several

theorem logged_of_several :
    (getAnchorByAccount a).logged c connection =
      [duplicateRecord a.strip (connection.store.holders a.strip).length] := by
  have failed := getAnchorByAccount_of_several several (lookingUpAccount_holders unfaulted anchorTable storable)
  unfold logged
  rw [inSession_action, action, map_apply, failed]
  show (Session.reach _ _ _).log ++ _ = _
  rw [Session.log_reach]
  rfl

/-- A request for an account with several anchors is answered as any internal failure is, after two critical alarms. -/
theorem respond_of_several (unreplaced : c.replacement = none) (origins : List Text) {request : Request}
    (found : dispatch request.method request.path = .found (.anchorByAccount a)) :
    (respond ⟨some connection, origins⟩ c request).response.Says
        { status := 500
          body := some (errorEnvelope internalCode genericFailureMessage Category.internal.name Severity.critical.name
            [("timestamp", .string c.now.toUtcText)]) } ∧
      ∃ report, (respond ⟨some connection, origins⟩ c request).log =
        [duplicateRecord a.strip (connection.store.holders a.strip).length, report] ∧ report.level = .critical := by
  have reaches : Reaches request (.anchorByAccount a) none := ⟨found, rfl⟩
  have failed := (run_getAnchorByAccount_eq_duplicated unfaulted anchorTable storable).2 several
  have meets : Meets (some connection) c request (.duplicated a.strip c.now) := .ran reaches rfl unreplaced rfl failed
  obtain ⟨told, noted⟩ := meets.respond_of_internal (by decide : (500 : Int) ≤ 500) origins
  rw [reaches.answer_eq, runEndpoint_accepted origins connection _ rfl unreplaced, ← logged,
    logged_of_several unfaulted anchorTable storable several] at noted
  exact ⟨told, _, noted, rfl⟩

end Unfaulted

/-- After any run from tables without rows, whether or not accounts have to be unique: a look-up of an account finds
the anchors that were registered under any spelling of it. It returns the row of a sole holder, misses an account
without one, and of several it picks none: it raises a critical alarm and fails for a broken invariant, of which a
caller is told nothing. It never changes the store, what it returns is listed, and no blank text has a holder. -/
theorem run_accountLookup {start : Connection} (empty : start.store.IsEmpty)
    (anchorTable : start.store.hasTable .insertAnchor) (steps : List Step) (unfaulted : c.fault = none)
    (storable : a.Storable) :
    let connection := AnchorRegistry.run start steps
    let holders := connection.store.holders a.strip
    let ran := (getAnchorByAccount a).run c connection
    holders.map Anchor.id = (((history start steps).filterMap Event.registered?).filter fun row =>
      row.accountReference = a.strip).map Anchor.id ∧
    (∀ anchor, ran.1 = .ok (.anchor anchor) ↔ holders = [anchor]) ∧
    (ran.1 = .error (.missingAccount a.strip c.now) ↔ holders = []) ∧
    (ran.1 = .error (.duplicated a.strip c.now) ↔ 2 ≤ holders.length) ∧
    (2 ≤ holders.length →
      (getAnchorByAccount a).logged c connection = [duplicateRecord a.strip holders.length] ∧
      (c.replacement = none → ∀ origins (request : Request),
        dispatch request.method request.path = .found (.anchorByAccount a) →
        (respond ⟨some connection, origins⟩ c request).response.Says
          { status := 500
            body := some (errorEnvelope internalCode genericFailureMessage Category.internal.name
              Severity.critical.name [("timestamp", .string c.now.toUtcText)]) } ∧
        ∃ report, (respond ⟨some connection, origins⟩ c request).log =
          [duplicateRecord a.strip holders.length, report] ∧ report.level = .critical)) ∧
    (∀ d, ((getAnchorByAccount a).run d connection).2.store = connection.store) ∧
    (∀ anchor, ran.1 = .ok (.anchor anchor) →
      ∃ rows, (listAnchors.run c connection).1 = .ok (.anchors rows) ∧ anchor ∈ rows) ∧
    ((∀ ch ∈ a, ch.isBlank) → ran.1 = .error (.missingAccount a.strip c.now)) := by
  intro connection holders ran
  have reachable : Reachable connection := ⟨start, steps, empty, rfl⟩
  have table : connection.store.hasTable .insertAnchor := (run_hasTable start steps .insertAnchor).trans anchorTable
  have missing := run_getAnchorByAccount_eq_missing unfaulted table storable
  have returned := run_getAnchorByAccount_eq_ok unfaulted table storable
  refine ⟨(lists_run empty steps).holders a.strip, returned, missing,
    run_getAnchorByAccount_eq_duplicated unfaulted table storable, fun several => ⟨?_, ?_⟩,
    fun d => store_getAnchorByAccount a d connection, fun anchor found => ?_, fun blank => ?_⟩
  · exact logged_of_several unfaulted table storable several
  · intro unreplaced origins request found
    exact respond_of_several unfaulted table storable several unreplaced origins found
  · refine ⟨_, run_listAnchors unfaulted (Store.anchorTable_of_hasTable table), ?_⟩
    have sole : anchor ∈ holders := by
      rw [show holders = [anchor] from (returned anchor).1 found]
      exact List.mem_singleton_self anchor
    exact List.mem_mergeSort.2 (Store.mem_holders.1 sole).1
  · refine missing.2 ?_
    rw [Text.strip_of_blank blank]
    exact Store.holders_nil reachable.legal

end Invocation

end Repository

namespace Sample

/-- Tables without a rule for accounts. -/
def lax : Connection := { store := .freshWithoutUnique }

/-- One account is registered twice. -/
def twice : List Step := [.call circumstances registration, .call issuing registration]

end Sample

/-- Of two anchors of one account a look-up picks none. -/
theorem Repository.Invocation.run_accountLookup_twice : Sample.lax.store.IsEmpty ∧
    ((AnchorRegistry.run Sample.lax Sample.twice).store.holders "GACME").length = 2 ∧
    ((getAnchorByAccount "GACME ").run Sample.circumstances (AnchorRegistry.run Sample.lax Sample.twice)).1 =
      .error (.duplicated "GACME" ⟨5⟩) := by
  have empty : Sample.lax.store.IsEmpty := ⟨rfl, rfl⟩
  have storable : Text.Storable "GACME " := by decide
  have two : ((AnchorRegistry.run Sample.lax Sample.twice).store.holders "GACME").length = 2 := by decide +kernel
  obtain ⟨-, -, -, duplicated, -⟩ := run_accountLookup empty rfl Sample.twice
    (rfl : Sample.circumstances.fault = none) storable
  exact ⟨empty, two, duplicated.2 (Nat.le_of_eq two.symm)⟩

end AnchorRegistry
