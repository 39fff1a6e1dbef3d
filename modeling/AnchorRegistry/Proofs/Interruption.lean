import AnchorRegistry.Proofs.CallSite
import AnchorRegistry.Proofs.Run

/-! Interrupted operations. The statements of an operation are a fixed list, each made in the name of one operation:
a look-up of an anchor inside another operation is made in the name of the look-up. A fault of the store at one of
them ends the operation there and is classified by the scope of that statement alone; the classification around the
whole session finds nothing left to do. Only at the commit of a registration or of an asset does a broken integrity
mean something else than an unavailable store. -/

namespace AnchorRegistry

open Http (Circumstances)

namespace Repository

open AnchorRegistry.Action CallSite

namespace Invocation

/-- The statements of an operation in their order: the kind of each call, and the operation in whose name it is
made. -/
def statements : Invocation → List (Call × Operation)
  | createAnchor _ => [(.commit, .createAnchor)]
  | listAnchors => [(.execute, .listAnchors)]
  | getAnchorById _ => [(.execute, .getAnchorById)]
  | getAnchorByAccount _ => [(.execute, .getAnchorByAccount)]
  | updateAnchorMetrics _ _ => [(.execute, .getAnchorById), (.commit, .updateAnchorMetrics)]
  | createAsset _ _ => [(.execute, .getAnchorById), (.commit, .createAsset)]
  | listAssetsForAnchor _ => [(.execute, .getAnchorById), (.execute, .listAssetsForAnchor)]

/-- What becomes of a failure in a statement of an operation. -/
def becomes (invocation : Invocation) (now : Instant) (statement : Call × Operation) (failure : Failure) : Failure :=
  match invocation, statement.1 with
  | createAnchor p, .commit =>
      (Failure.insteadOfIntegrity (.taken p.accountReference.strip now) failure).classified statement.2.name now
  | createAsset raw _, .commit =>
      (Failure.insteadOfIntegrity (.missing raw now) failure).classified statement.2.name now
  | _, _ => failure.classified statement.2.name now

/-- The places at which an operation makes its calls. -/
def sites (invocation : Invocation) (now : Instant) : List CallSite :=
  invocation.statements.map fun statement => ⟨statement.1, invocation.becomes now statement⟩

end Invocation

variable {s : Session}

theorem createAnchor_makes (unfaulted : s.fault = none) (p : Payload.NewAnchor) :
    (createAnchor p).Makes s ((Invocation.createAnchor p).sites s.now) fun _ _ => True := by
  refine (quiet_refuse _ none).makes_bind fun _ t _ checked => ?_
  refine quiet_freshId.makes_bind fun id u _ drawn => quiet_now.makes_bind fun now v _ timed => ?_
  have frame := (checked.trans drawn).trans timed
  have unfaulted := frame.fault.trans unfaulted
  -- the place of the commit is told by the clock of the session that reaches it
  rw [← frame.now]
  refine ((Makes.commitBinding unfaulted).onIntegrity (.taken p.accountReference.strip v.now)
    ?_ ?_).guarded.bind_none ?_
  · exact (quiet_log _).bind fun _ => quiet_fail _ none _
  · intro w same
    exact congrArg (fun now => Except.error (Failure.taken p.accountReference.strip now)) same
  · intro _ w _ _
    exact (quiet_log _).makes_bind fun _ _ _ _ => .pure trivial

theorem listAnchors_makes (unfaulted : s.fault = none) :
    listAnchors.Makes s (Invocation.listAnchors.sites s.now) fun _ _ => True :=
  ((Makes.execute unfaulted).bind_none fun _ _ _ _ => .pure trivial).guarded

theorem getAnchorById_makes (unfaulted : s.fault = none) (raw : Text) :
    (getAnchorById raw).Makes s ((Invocation.getAnchorById raw).sites s.now) fun _ _ => True := by
  unfold getAnchorById
  split
  · exact .fail
  · refine (Makes.execute unfaulted).guarded.bind_none fun found t _ _ => ?_
    cases found with
    | nil => exact .fail
    | cons anchor rest => exact .pure trivial

theorem getAnchorByAccount_makes (unfaulted : s.fault = none) (raw : Text) :
    (getAnchorByAccount raw).Makes s ((Invocation.getAnchorByAccount raw).sites s.now) fun _ _ => True := by
  refine (Makes.executeBinding unfaulted).guarded.bind_none fun found t _ _ => ?_
  match found with
  | [] => exact .fail
  | [anchor] => exact .pure trivial
  | first :: second :: rest => exact (quiet_log _).makes_bind fun _ _ _ _ => .fail

theorem updateAnchorMetrics_makes (unfaulted : s.fault = none) (raw : Text) (p : Payload.MetricsUpdate) :
    (updateAnchorMetrics raw p).Makes s ((Invocation.updateAnchorMetrics raw p).sites s.now) fun _ _ => True := by
  refine (quiet_refuse _ (some raw)).makes_bind fun _ t _ checked => ?_
  rw [← checked.now]
  refine (getAnchorById_makes (checked.fault.trans unfaulted) raw).bind fun anchor u _ found => ?_
  refine (quiet_refuse _ (some anchor.id.toText)).makes_bind fun _ v _ rechecked => ?_
  refine quiet_now.makes_bind fun now w _ timed => ?_
  have frame := (found.trans rechecked).trans timed
  rw [← frame.now]
  refine (Makes.commit (frame.fault.trans (checked.fault.trans unfaulted))).guarded.bind_none ?_
  intro _ x _ _
  exact (quiet_log _).makes_bind fun _ _ _ _ => .pure trivial

theorem createAsset_makes (unfaulted : s.fault = none) (raw : Text) (p : Payload.NewAsset) :
    (createAsset raw p).Makes s ((Invocation.createAsset raw p).sites s.now) fun _ _ => True := by
  refine (getAnchorById_makes unfaulted raw).bind fun anchor t _ found => ?_
  refine (quiet_refuse _ (some anchor.id.toText)).makes_bind fun _ u _ checked => ?_
  refine quiet_freshId.makes_bind fun id v _ drawn => quiet_now.makes_bind fun now w _ timed => ?_
  have frame := ((found.trans checked).trans drawn).trans timed
  rw [← frame.now]
  refine ((Makes.commitBinding (frame.fault.trans unfaulted)).onIntegrity (.missing raw w.now)
    (quiet_fail _ (some raw) none) ?_).guarded.bind_none ?_
  · intro x same
    exact congrArg (fun now => Except.error (Failure.missing raw now)) same
  · intro _ x _ _
    exact (quiet_log _).makes_bind fun _ _ _ _ => .pure trivial

theorem listAssetsForAnchor_makes (unfaulted : s.fault = none) (raw : Text) :
    (listAssetsForAnchor raw).Makes s ((Invocation.listAssetsForAnchor raw).sites s.now) fun _ _ => True := by
  refine (getAnchorById_makes unfaulted raw).bind fun anchor t _ found => ?_
  rw [← found.now]
  exact ((Makes.execute (found.fault.trans unfaulted)).bind_none fun _ _ _ _ => .pure trivial).guarded

namespace Invocation

/-- Every operation makes its calls at its places. -/
theorem action_makes (unfaulted : s.fault = none) (invocation : Invocation) :
    invocation.action.Makes s (invocation.sites s.now) fun _ _ => True := by
  cases invocation with
  | createAnchor p => exact (createAnchor_makes unfaulted p).map _
  | listAnchors => exact (listAnchors_makes unfaulted).map _
  | getAnchorById raw => exact (getAnchorById_makes unfaulted raw).map _
  | getAnchorByAccount raw => exact (getAnchorByAccount_makes unfaulted raw).map _
  | updateAnchorMetrics raw p => exact (updateAnchorMetrics_makes unfaulted raw p).map _
  | createAsset raw p => exact (createAsset_makes unfaulted raw p).map _
  | listAssetsForAnchor raw => exact (listAssetsForAnchor_makes unfaulted raw).map _

/-- The operations in whose names the calls of one kind are made, in the order of the calls. -/
def owners (invocation : Invocation) (call : Call) : List Operation :=
  (invocation.statements.filter fun statement => statement.1 = call).map Prod.snd

/-- Whether the operation writes to the store. -/
def writes : Invocation → Bool
  | createAnchor _ | updateAnchorMetrics _ _ | createAsset _ _ => true
  | _ => false

theorem length_owners_commit (invocation : Invocation) :
    (invocation.owners .commit).length = if invocation.writes then 1 else 0 := by
  cases invocation <;> rfl

/-- The failure of an operation that a fault of the store interrupts in one of its statements. -/
def interrupted (invocation : Invocation) (now : Instant) (call : Call) (owner : Operation) (fault : StorageFault) :
    Failure :=
  match invocation, call, fault with
  | createAnchor p, .commit, .integrity => .taken p.accountReference.strip now
  | createAsset raw _, .commit, .integrity => .missing raw now
  | _, _, _ => .service ⟨.storageUnavailable "Storage operation failed" owner.name, { timestamp := now }⟩

theorem becomes_storage (invocation : Invocation) (now : Instant) (statement : Call × Operation)
    (fault : StorageFault) :
    invocation.becomes now statement (.storage fault) = invocation.interrupted now statement.1 statement.2 fault := by
  rcases statement with ⟨call, owner⟩
  cases invocation <;> cases call <;> cases fault <;> rfl

theorem among_sites (invocation : Invocation) (now : Instant) (call : Call) :
    among (invocation.sites now) call =
      (invocation.statements.filter fun statement => statement.1 = call).map fun statement =>
        ⟨statement.1, invocation.becomes now statement⟩ := by
  unfold among sites
  rw [List.filter_map]
  rfl

theorem length_among_sites (invocation : Invocation) (now : Instant) (call : Call) :
    (among (invocation.sites now) call).length = (invocation.owners call).length := by
  rw [among_sites, owners, List.length_map, List.length_map]

/-- At every place a fault of the store becomes the failure of the statement there. -/
theorem owners_of_sites {invocation : Invocation} {now : Instant} {call : Call} {index : Nat} {site : CallSite}
    (found : (among (invocation.sites now) call)[index]? = some site) :
    ∃ owner, (invocation.owners call)[index]? = some owner ∧
      ∀ fault, site.becomes (.storage fault) = invocation.interrupted now call owner fault := by
  rw [among_sites, List.getElem?_map] at found
  obtain ⟨statement, at_index, rfl⟩ := Option.map_eq_some_iff.1 found
  have same : statement.1 = call := by simpa using (List.mem_filter.1 (List.mem_of_getElem? at_index)).2
  refine ⟨statement.2, ?_, fun fault => ?_⟩
  · rw [owners, List.getElem?_map, at_index]
    rfl
  · rw [← same]
    exact becomes_storage invocation now statement fault

/-- How many calls of a kind an operation makes. -/
def calls (invocation : Invocation) (c : Circumstances) (connection : Connection) (call : Call) : Nat :=
  (invocation.action.inSession (c.session connection)).2.calls call

end Invocation

end Repository

namespace Http.Circumstances

/-- The circumstances with a fault of the store planned for one call. -/
def interrupting (c : Circumstances) (call : Call) (nth : Nat) (fault : StorageFault) : Circumstances :=
  { c with fault := some ⟨call, nth, .storage fault⟩ }

theorem session_interrupting (c : Circumstances) (call : Call) (nth : Nat) (fault : StorageFault)
    (connection : Connection) :
    (c.interrupting call nth fault).session connection = (c.session connection).plan ⟨call, nth, .storage fault⟩ := rfl

end Http.Circumstances

namespace Repository.Invocation

variable {invocation : Invocation} {c : Circumstances} {connection : Connection} {call : Call} {nth : Nat}

theorem run_eq (invocation : Invocation) (c : Circumstances) (connection : Connection) :
    invocation.run c connection =
      ((invocation.action (c.session connection)).1, (invocation.action (c.session connection)).2.toConnection) := by
  rw [run, inSession_action]
  rfl

theorem calls_eq (invocation : Invocation) (c : Circumstances) (connection : Connection) (call : Call) :
    invocation.calls c connection call = (invocation.action (c.session connection)).2.calls call := by
  rw [calls, inSession_action]

theorem calls_session (c : Circumstances) (connection : Connection) (call : Call) :
    (c.session connection).calls call = 0 := by
  cases call <;> rfl

section Unfaulted

variable (unfaulted : c.fault = none)

include unfaulted

theorem session_makes (invocation : Invocation) (connection : Connection) :
    invocation.action.Makes (c.session connection) (invocation.sites c.now) fun _ _ => True :=
  action_makes (s := c.session connection) unfaulted invocation

/-- An operation that returns has made all its calls. -/
theorem calls_of_ok {rows : Rows} (ran : (invocation.run c connection).1 = .ok rows) (call : Call) :
    invocation.calls c connection call = (invocation.owners call).length := by
  rw [run_eq] at ran
  have made := ((session_makes unfaulted invocation connection).returned rows _ (Prod.ext ran rfl)).2 call
  rw [calls_session, Nat.zero_add, length_among_sites] at made
  rw [calls_eq]
  exact made

theorem calls_le (invocation : Invocation) (connection : Connection) (call : Call) :
    invocation.calls c connection call ≤ (invocation.owners call).length := by
  have made := ((session_makes unfaulted invocation connection).bounds call).2
  rw [calls_session, Nat.zero_add, length_among_sites] at made
  rw [calls_eq]
  exact made

/-- A fault that is planned for a call that is not made makes no difference. -/
theorem run_spared (fault : StorageFault) (early : invocation.calls c connection call < nth) :
    invocation.run (c.interrupting call nth fault) connection = invocation.run c connection ∧
      ∀ kind, invocation.calls (c.interrupting call nth fault) connection kind =
        invocation.calls c connection kind := by
  rw [calls_eq] at early
  have spared := (session_makes unfaulted invocation connection).spared ⟨call, nth, .storage fault⟩ early
  rw [← c.session_interrupting] at spared
  refine ⟨?_, fun kind => ?_⟩
  · rw [run_eq, run_eq, spared]
    rfl
  · rw [calls_eq, calls_eq, spared]
    cases kind <;> rfl

/-- At a call that is made a fault ends the operation, with the failure of the statement that makes the call. -/
theorem run_struck (fault : StorageFault) (counted : 0 < nth) (late : nth ≤ invocation.calls c connection call) :
    ∃ owner, (invocation.owners call)[nth - 1]? = some owner ∧
      (invocation.run (c.interrupting call nth fault) connection).1 =
        .error (invocation.interrupted c.now call owner fault) ∧
      invocation.calls (c.interrupting call nth fault) connection call = nth ∧
      ∀ kind, invocation.calls (c.interrupting call nth fault) connection kind ≤
        invocation.calls c connection kind := by
  have start := calls_session c connection call
  rw [calls_eq] at late
  obtain ⟨site, t, found, met, -, last, fewer⟩ := (session_makes unfaulted invocation connection).struck
    ⟨call, nth, .storage fault⟩ (Nat.lt_of_le_of_lt (Nat.le_of_eq start) counted) late
  rw [← c.session_interrupting] at met
  rw [start, Nat.sub_zero] at found
  obtain ⟨owner, owned, becomes⟩ := owners_of_sites found
  refine ⟨owner, owned, ?_, ?_, fun kind => ?_⟩
  · rw [run_eq, met, ← becomes]
  · rw [calls_eq, met]
    exact last
  · rw [calls_eq, calls_eq, met]
    exact fewer kind

end Unfaulted

theorem interrupted_ne_invariantViolation (invocation : Invocation) (now : Instant) (call : Call) (owner : Operation)
    (fault : StorageFault) (message : Text) (context : ErrorContext) :
    invocation.interrupted now call owner fault ≠ .service ⟨.invariantViolation message, context⟩ := by
  cases invocation <;> cases call <;> cases fault <;> exact fun same => nomatch same

/-- Whatever interrupts a call of the store, the failure is classified and the store is as it was. -/
theorem run_failed {failure : Failure} (failed : (invocation.run c connection).1 = .error failure) :
    (invocation.run c connection).2.store = connection.store ∧ ∀ fault, failure ≠ .storage fault := by
  obtain ⟨kept, fails⟩ := run_error (Prod.ext failed rfl : invocation.run c connection = (.error failure, _))
  exact ⟨kept, fails.classified.ne_storage⟩

/-- A fault of the store at the nth call of a kind either is not met, and nothing is different, or ends the operation
there: the store stays as it was, and the failure is classified once, in the name of the operation whose statement
makes the call, where it does not mean that an account is taken or an anchor is missing. With the fault or without
it an operation makes no more calls than it has statements, and all of them where it returns; a write commits once
and a read never. -/
theorem run_interrupting (unfaulted : c.fault = none) (counted : 0 < nth) (invocation : Invocation)
    (connection : Connection) (call : Call) (fault : StorageFault) :
    let faulty := c.interrupting call nth fault
    let plain := invocation.run c connection
    let faulted := invocation.run faulty connection
    (invocation.calls c connection call < nth → faulted = plain) ∧
    (nth ≤ invocation.calls c connection call → faulted.2.store = connection.store ∧
      ∃ owner, (invocation.owners call)[nth - 1]? = some owner ∧
        faulted.1 = .error (invocation.interrupted c.now call owner fault) ∧
        invocation.calls faulty connection call = nth) ∧
    (∀ failure, faulted.1 = .error failure → (∀ bare, failure ≠ .storage bare) ∧
      ∀ message context, failure = .service ⟨.invariantViolation message, context⟩ → faulted = plain) ∧
    (∀ kind, invocation.calls faulty connection kind ≤ invocation.calls c connection kind ∧
      invocation.calls c connection kind ≤ (invocation.owners kind).length) ∧
    (∀ rows, plain.1 = .ok rows → ∀ kind, invocation.calls c connection kind = (invocation.owners kind).length) ∧
    (∀ rows, faulted.1 = .ok rows → ∀ kind, invocation.calls faulty connection kind = (invocation.owners kind).length) ∧
    (invocation.owners .commit).length = if invocation.writes then 1 else 0 := by
  intro faulty plain faulted
  have made (rows : Rows) (ran : plain.1 = .ok rows) := calls_of_ok unfaulted ran
  have limited := calls_le unfaulted invocation connection
  have commits := length_owners_commit invocation
  rcases Nat.lt_or_ge (invocation.calls c connection call) nth with early | late
  · obtain ⟨same, counts⟩ := run_spared unfaulted fault early
    refine ⟨fun _ => same, fun late => by omega, fun failure failed => ?_, fun kind => ?_, made,
      fun rows ran kind => ?_, commits⟩
    · exact ⟨(run_failed failed).2, fun _ _ _ => same⟩
    · exact ⟨Nat.le_of_eq (counts kind), limited kind⟩
    · have ran : plain.1 = .ok rows := (congrArg Prod.fst same).symm.trans ran
      exact (counts kind).trans (made rows ran kind)
  · obtain ⟨owner, owned, failed, last, fewer⟩ := run_struck unfaulted fault counted late
    refine ⟨fun early => by omega, fun _ => ?_, fun failure met => ?_, fun kind => ⟨fewer kind, limited kind⟩, made,
      fun rows ran => ?_, commits⟩
    · exact ⟨(run_failed failed).1, owner, owned, failed, last⟩
    · refine ⟨(run_failed met).2, fun message context same => ?_⟩
      rw [failed] at met
      cases met
      exact (interrupted_ne_invariantViolation invocation c.now call owner fault message context same).elim
    · rw [failed] at ran
      cases ran

/-- A broken integrity in the second statement of a listing is an unavailable store in the name of the listing. -/
theorem run_interrupting_listing :
    Sample.circumstances.fault = none ∧ 0 < 2 ∧
      ((listAssetsForAnchor Sample.anchorId.toText).run (Sample.circumstances.interrupting .execute 2 .integrity)
        Sample.registered).1 =
          .error (.service ⟨.storageUnavailable "Storage operation failed" "list_assets_for_anchor",
            { timestamp := ⟨5⟩ }⟩) := by
  have unfaulted : Sample.circumstances.fault = none := rfl
  obtain ⟨-, struck, -⟩ := run_interrupting unfaulted (by decide : 0 < 2)
    (listAssetsForAnchor Sample.anchorId.toText) Sample.registered .execute .integrity
  obtain ⟨-, owner, owned, failed, -⟩ := struck (by decide +kernel)
  cases owned
  exact ⟨unfaulted, by decide, failed⟩

end Repository.Invocation

end AnchorRegistry
