import AnchorRegistry.Proofs.Encodable
import AnchorRegistry.Proofs.History

/-! Registrations in any order. Where accounts must be unique, a registration without a fault comes to one of
three ends: its payload is refused, its account is taken, or its row joins the others. All three are decided by
one text, the stripped account: it is written, compared and named in the conflict. So after a list of
registrations the accounts are those there were and those that valid payloads name, each of them won exactly once
unless it was there at the start, and no order of the list makes a difference to that. -/

namespace AnchorRegistry

open Repository (Invocation Rows anchorRow)
open Http (Circumstances)

namespace Store

/-- The accounts of the stored anchors. -/
def accounts (store : Store) : List Text := store.anchors.map Anchor.accountReference

/-- The table of anchors is there, and no two of them may have one account. -/
structure AsksUnique (store : Store) : Prop where
  table : store.hasTable .insertAnchor
  unique : store.uniqueAccounts

variable {before after : Store}

theorem AsksUnique.change (asks : before.AsksUnique) (change : before.Change after) : after.AsksUnique := by
  refine ⟨?_, ?_⟩
  · rw [change.hasTable]
    exact asks.table
  · rw [change.uniqueAccounts]
    exact asks.unique

theorem AsksUnique.anchorTable {store : Store} (asks : store.AsksUnique) : store.anchorTable = some store.anchors :=
  anchorTable_of_hasTable asks.table

theorem AnchorJoined.accounts {row : Anchor} (joined : before.AnchorJoined row after) :
    after.accounts = before.accounts ++ [row.accountReference] := by
  unfold Store.accounts
  rw [joined.anchors, List.map_append]
  rfl

/-- What a registration comes to, and the store that it leaves. -/
inductive Registers (before : Store) (c : Circumstances) (p : Payload.NewAnchor) : Except Failure Rows → Store → Prop
  | refused {v : Violation} (found : p.violation = some v) :
    Registers before c p (.error (.refused v none c.now)) before
  | taken (valid : p.violation = none) (stored : p.accountReference.strip ∈ before.accounts) :
    Registers before c p (.error (.taken p.accountReference.strip c.now)) before
  | won {after : Store} (valid : p.violation = none) (free : p.accountReference.strip ∉ before.accounts)
    (joined : before.AnchorJoined (anchorRow p c.freshId c.now) after) :
    Registers before c p (.ok (.anchor (anchorRow p c.freshId c.now))) after

end Store

/-- The account that a successful registration won. -/
def Event.won? (e : Event) : Option Text :=
  match e.invocation, e.outcome with
  | .createAnchor p, .ok _ => some p.accountReference.strip
  | _, _ => none

namespace Store.Registers

variable {before after : Store} {c : Circumstances} {p : Payload.NewAnchor} {result : Except Failure Rows}

/-- Afterwards the accounts are those there were and the one that a valid payload names. -/
theorem mem_accounts (registers : before.Registers c p result after) {a : Text} :
    a ∈ after.accounts ↔ a ∈ before.accounts ∨ p.violation = none ∧ p.accountReference.strip = a := by
  cases registers with
  | refused found => simp [found]
  | taken valid stored =>
      refine ⟨.inl, ?_⟩
      rintro (old | ⟨-, rfl⟩)
      · exact old
      · exact stored
  | won valid free joined =>
      rw [joined.accounts, List.mem_append, List.mem_singleton]
      have written : (anchorRow p c.freshId c.now).accountReference = p.accountReference.strip := rfl
      rw [written]
      simp [valid, eq_comm]

/-- The accounts grow by the one that is won. -/
theorem accounts (registers : before.Registers c p result after) :
    after.accounts = before.accounts ++ (Event.won? ⟨c.now, .createAnchor p, result⟩).toList := by
  cases registers with
  | refused found => exact (List.append_nil _).symm
  | taken valid stored => exact (List.append_nil _).symm
  | won valid free joined => exact joined.accounts

/-- Only the row of the registration can be new. -/
theorem id_cases (registers : before.Registers c p result after) {a : Anchor} (member : a ∈ after.anchors) :
    a ∈ before.anchors ∨ a.id = c.freshId := by
  cases registers with
  | refused found => exact .inl member
  | taken valid stored => exact .inl member
  | won valid free joined =>
      rw [joined.anchors, List.mem_append, List.mem_singleton] at member
      rcases member with old | rfl
      · exact .inl old
      · exact .inr rfl

end Store.Registers

theorem Repository.Invocation.registers_createAnchor {c : Circumstances} {connection : Connection}
    {p : Payload.NewAnchor} (asks : connection.store.AsksUnique) (unfaulted : c.fault = none)
    (encodable : p.Encodable) (fresh : ∀ a ∈ connection.store.anchors, a.id ≠ c.freshId) :
    connection.store.Registers c p ((createAnchor p).run c connection).1
      ((createAnchor p).run c connection).2.store := by
  have rejections {reason : Failure} (met : registering p (c.session connection) = .error reason) :
      p.accountReference.strip ∈ connection.store.accounts ∧ reason = .storage .integrity := by
    rw [registering, Session.attempt_unfaulted unfaulted] at met
    rcases Store.insertAnchor_eq_error asks.anchorTable met with unencodable | ⟨-, refused, same⟩
    · obtain ⟨t, member, unstorable, -⟩ := Store.encodable_eq_error unencodable
      exact absurd (storable_anchorRow.2 encodable t member) unstorable
    · refine ⟨?_, same⟩
      by_contra free
      refine refused (Store.admitsAnchor_iff.2 fun a member => ⟨fresh a member, fun _ taken => ?_⟩)
      exact free (List.mem_map.2 ⟨a, member, taken⟩)
  cases ran : (createAnchor p).run c connection with
  | mk result after =>
      cases result with
      | ok rows =>
          have returns := run_ok ran
          simp only
          generalize after.store = store at returns ⊢
          cases returns with
          | createAnchor valid written =>
              have joined := Store.anchorJoined (Session.eq_ok_of_attempt written)
              refine .won valid (fun stored => ?_) joined
              obtain ⟨a, member, taken⟩ := List.mem_map.1 stored
              exact joined.newAccount asks.unique a member taken
      | error failure =>
          obtain ⟨kept, fails⟩ := run_error ran
          simp only [kept]
          cases fails with
          | refused found => exact .refused found
          | taken valid rejected => exact .taken valid (rejections rejected).1
          | broken valid met other => exact absurd (rejections met).2 other

/-- Registrations that are made one after another. -/
abbrev Registrations := List (Circumstances × Payload.NewAnchor)

namespace Registrations

def payloads (registrations : Registrations) : List Payload.NewAnchor := registrations.map Prod.snd

def calls (registrations : Registrations) : Calls := registrations.map fun (c, p) => (c, .createAnchor p)

/-- The connection that registrations leave. -/
def run (start : Connection) (registrations : Registrations) : Connection := registrations.calls.run start

/-- What came of each registration. -/
def history (start : Connection) (registrations : Registrations) : List Event := registrations.calls.history start

/-- The accounts that were won, in the order in which they were. -/
def winners (start : Connection) (registrations : Registrations) : List Text :=
  (registrations.history start).filterMap Event.won?

/-- The registrations meet no fault, every text has an encoding, and every identifier is fresh. -/
structure Fair (registrations : Registrations) (store : Store) : Prop where
  unfaulted : ∀ r ∈ registrations, r.1.fault = none
  encodable : ∀ p ∈ registrations.payloads, p.Encodable
  distinct : (registrations.map fun r => r.1.freshId).Nodup
  fresh : ∀ r ∈ registrations, ∀ a ∈ store.anchors, a.id ≠ r.1.freshId

/-- What comes of registrations: they were all made; a refused payload is told what was found; of valid ones each
wins its account or hears that it is taken; every account that a valid payload names is won once, or never if it
was there before; and the anchors grow by one for each that was won. -/
structure Decided (registrations : Registrations) (start : Connection) : Prop where
  made : (registrations.history start).map Event.invocation = registrations.payloads.map .createAnchor
  refused : ∀ e ∈ registrations.history start, ∀ p v, e.invocation = .createAnchor p → p.violation = some v →
    e.outcome = .error (.refused v none e.now)
  valid : ∀ e ∈ registrations.history start, ∀ p, e.invocation = .createAnchor p → p.violation = none →
    (∃ row, e.outcome = .ok (.anchor row)) ∨ e.outcome = .error (.taken p.accountReference.strip e.now)
  once : ∀ p ∈ registrations.payloads, p.violation = none →
    (registrations.winners start).count p.accountReference.strip =
      if p.accountReference.strip ∈ start.store.accounts then 0 else 1
  grown : (registrations.run start).store.anchors.length =
    start.store.anchors.length + (registrations.winners start).length

variable {c : Circumstances} {p : Payload.NewAnchor} {rest registrations : Registrations} {connection : Connection}

theorem Fair.registers (fair : Fair ((c, p) :: rest) connection.store) (asks : connection.store.AsksUnique) :
    connection.store.Registers c p ((Invocation.createAnchor p).run c connection).1
      ((Invocation.createAnchor p).run c connection).2.store :=
  Invocation.registers_createAnchor asks (fair.unfaulted _ List.mem_cons_self) (fair.encodable _ List.mem_cons_self)
    (fair.fresh _ List.mem_cons_self)

theorem Fair.tail (fair : Fair ((c, p) :: rest) connection.store) (asks : connection.store.AsksUnique) :
    Fair rest ((Invocation.createAnchor p).run c connection).2.store := by
  have distinct := fair.distinct
  rw [List.map_cons, List.nodup_cons] at distinct
  refine ⟨fun r later => fair.unfaulted r (List.mem_cons_of_mem _ later),
    fun q later => fair.encodable q (List.mem_cons_of_mem _ later), distinct.2, fun r later a stored => ?_⟩
  rcases (fair.registers asks).id_cases stored with old | new
  · exact fair.fresh r (List.mem_cons_of_mem _ later) a old
  · intro same
    exact distinct.1 (List.mem_map.2 ⟨r, later, same.symm.trans new⟩)

/-- An induction over registrations, each of which is decided by the store that it meets. -/
theorem Fair.induction {I : Connection → Registrations → Prop} (nil : ∀ connection, I connection [])
    (cons : ∀ connection c p rest, connection.store.Registers c p ((Invocation.createAnchor p).run c connection).1
        ((Invocation.createAnchor p).run c connection).2.store →
      I ((Invocation.createAnchor p).run c connection).2 rest → I connection ((c, p) :: rest))
    (fair : registrations.Fair connection.store) (asks : connection.store.AsksUnique) : I connection registrations := by
  induction registrations generalizing connection with
  | nil => exact nil connection
  | cons r rest ih =>
      obtain ⟨c, p⟩ := r
      have changed := (Invocation.createAnchor p).run_change c connection
      exact cons connection c p rest (fair.registers asks) (ih (fair.tail asks) (asks.change changed))

theorem mem_accounts_run (fair : registrations.Fair connection.store) (asks : connection.store.AsksUnique) {a : Text} :
    a ∈ (registrations.run connection).store.accounts ↔
      a ∈ connection.store.accounts ∨
        ∃ p ∈ registrations.payloads, p.violation = none ∧ p.accountReference.strip = a := by
  refine fair.induction (I := fun connection registrations => a ∈ (registrations.run connection).store.accounts ↔
    a ∈ connection.store.accounts ∨ ∃ p ∈ registrations.payloads, p.violation = none ∧ p.accountReference.strip = a)
    ?_ ?_ asks
  · intro connection
    simp [run, calls, payloads, Calls.run, AnchorRegistry.run]
  · intro connection c p rest registers ih
    have onward : run connection ((c, p) :: rest) = rest.run ((Invocation.createAnchor p).run c connection).2 := rfl
    rw [onward, ih, registers.mem_accounts]
    simp [payloads, or_assoc]

theorem accounts_run (fair : registrations.Fair connection.store) (asks : connection.store.AsksUnique) :
    (registrations.run connection).store.accounts = connection.store.accounts ++ registrations.winners connection := by
  refine fair.induction (I := fun connection registrations => (registrations.run connection).store.accounts =
    connection.store.accounts ++ registrations.winners connection) ?_ ?_ asks
  · intro connection
    exact (List.append_nil _).symm
  · intro connection c p rest registers ih
    have onward : run connection ((c, p) :: rest) = rest.run ((Invocation.createAnchor p).run c connection).2 := rfl
    rw [onward, ih, registers.accounts, List.append_assoc]
    congr 1
    unfold winners history
    cases won : Event.won? ⟨c.now, .createAnchor p, ((Invocation.createAnchor p).run c connection).1⟩ <;>
      simp [calls, Calls.history, won]

/-- Each event of the history is what one registration came to. -/
theorem registers_of_mem (fair : registrations.Fair connection.store) (asks : connection.store.AsksUnique) {e : Event}
    (member : e ∈ registrations.history connection) (call : e.invocation = .createAnchor p) :
    ∃ c before after, e.now = c.now ∧ Store.Registers before c p e.outcome after := by
  refine fair.induction (I := fun connection registrations => e ∈ registrations.history connection →
    ∃ c before after, e.now = c.now ∧ Store.Registers before c p e.outcome after) ?_ ?_ asks member
  · intro connection none
    cases none
  · intro connection c q rest registers ih member
    rcases List.mem_cons.1 member with rfl | later
    · cases call
      exact ⟨c, _, _, rfl, registers⟩
    · exact ih later

theorem map_invocation_history (registrations : Registrations) (connection : Connection) :
    (registrations.history connection).map Event.invocation = registrations.payloads.map .createAnchor := by
  induction registrations generalizing connection with
  | nil => rfl
  | cons r rest ih =>
      obtain ⟨c, p⟩ := r
      exact congrArg (List.cons (Invocation.createAnchor p)) (ih _)

theorem nodup_accounts_run (reachable : Reachable connection) (asks : connection.store.AsksUnique)
    (registrations : Registrations) : (registrations.run connection).store.accounts.Nodup := by
  have after : Reachable (registrations.run connection) := reachable.run _
  have unique : (registrations.run connection).store.uniqueAccounts := by
    rw [run, Calls.run, run_uniqueAccounts]
    exact asks.unique
  exact after.legal.accounts unique

/-- An account that a valid payload names was there at the start or is won once. -/
theorem count_winners (reachable : Reachable connection) (asks : connection.store.AsksUnique)
    (fair : registrations.Fair connection.store) (member : p ∈ registrations.payloads) (valid : p.violation = none) :
    (registrations.winners connection).count p.accountReference.strip =
      if p.accountReference.strip ∈ connection.store.accounts then 0 else 1 := by
  have stored : p.accountReference.strip ∈ (registrations.run connection).store.accounts :=
    (mem_accounts_run fair asks).2 (.inr ⟨p, member, valid, rfl⟩)
  have total := List.count_eq_one_of_mem (nodup_accounts_run reachable asks registrations) stored
  rw [accounts_run fair asks, List.count_append] at total
  split
  · rename_i before
    have one := List.count_pos_iff.2 before
    omega
  · rename_i free
    have zero := List.count_eq_zero.2 free
    omega

theorem decided (reachable : Reachable connection) (asks : connection.store.AsksUnique)
    (fair : registrations.Fair connection.store) : registrations.Decided connection := by
  refine ⟨registrations.map_invocation_history connection, ?_, ?_, fun p => count_winners reachable asks fair, ?_⟩
  · intro e member p v call found
    obtain ⟨c, before, after, same, registers⟩ := registers_of_mem fair asks member call
    rw [same]
    generalize e.outcome = outcome at registers ⊢
    cases registers with
    | refused found' =>
        rw [found, Option.some.injEq] at found'
        rw [found']
    | taken valid stored => exact absurd (found.symm.trans valid) nofun
    | won valid free joined => exact absurd (found.symm.trans valid) nofun
  · intro e member p call valid
    obtain ⟨c, before, after, same, registers⟩ := registers_of_mem fair asks member call
    rw [same]
    generalize e.outcome = outcome at registers ⊢
    cases registers with
    | refused found => exact absurd (valid.symm.trans found) nofun
    | taken valid stored => exact .inr rfl
    | won valid free joined => exact .inl ⟨_, rfl⟩
  · have lengths := congrArg List.length (accounts_run fair asks)
    rw [List.length_append] at lengths
    simpa [Store.accounts] using lengths

/-- Where accounts must be unique, two orders of the same payloads, each order under circumstances of its own, are
both decided, and leave the same accounts. -/
theorem decided_of_perm (reachable : Reachable connection) (asks : connection.store.AsksUnique)
    {left right : Registrations} (same : left.payloads.Perm right.payloads) (fair : left.Fair connection.store)
    (fair' : right.Fair connection.store) : left.Decided connection ∧ right.Decided connection ∧
      (left.run connection).store.accounts.Perm (right.run connection).store.accounts := by
  refine ⟨decided reachable asks fair, decided reachable asks fair', ?_⟩
  apply (List.perm_ext_iff_of_nodup (nodup_accounts_run reachable asks left)
    (nodup_accounts_run reachable asks right)).2
  intro a
  rw [mem_accounts_run fair asks, mem_accounts_run fair' asks]
  simp only [same.mem_iff]

end Registrations

namespace Sample

/-- The account of the sample in another spelling. -/
def rival : Payload.NewAnchor := { profile with accountReference := "GACME", name := "Other" }

def rivalId : EntityId := ⟨0xB000000000004000800000000000000D, by decide⟩

def later : Circumstances := { now := ⟨6⟩, freshId := rivalId }

def rivals : Registrations := [(circumstances, profile), (later, rival)]

def swapped : Registrations := [(circumstances, rival), (later, profile)]

end Sample

/-- Whichever of the two comes first, one of them wins the account. -/
theorem Registrations.decided_of_perm_rivals :
    Sample.rivals.payloads.Perm Sample.swapped.payloads ∧ Sample.profile.violation = none ∧
      (Sample.rivals.winners Sample.start).count Sample.profile.accountReference.strip = 1 ∧
      (Sample.swapped.winners Sample.start).count Sample.profile.accountReference.strip = 1 := by
  have created : Sample.start.store.Created := .directly
  have asks : Sample.start.store.AsksUnique := ⟨rfl, rfl⟩
  have same : Sample.rivals.payloads.Perm Sample.swapped.payloads := .swap _ _ []
  have fair : Sample.rivals.Fair Sample.start.store :=
    ⟨by decide, by decide +kernel, by decide, by decide +kernel⟩
  have fair' : Sample.swapped.Fair Sample.start.store :=
    ⟨by decide, by decide +kernel, by decide, by decide +kernel⟩
  have valid : Sample.profile.violation = none := by decide +kernel
  have free : Sample.profile.accountReference.strip ∉ Sample.start.store.accounts := by
    rw [Store.accounts, created.isEmpty.1]
    exact List.not_mem_nil
  have reachable : Reachable Sample.start := created.reachable []
  obtain ⟨left, right, -⟩ := decided_of_perm reachable asks same fair fair'
  refine ⟨same, valid, ?_, ?_⟩
  · rw [left.once Sample.profile List.mem_cons_self valid, if_neg free]
  · rw [right.once Sample.profile (List.mem_cons_of_mem _ List.mem_cons_self) valid, if_neg free]

end AnchorRegistry
