import AnchorRegistry.Proofs.Invocation

/-! What sessions log. A record of an error or worse is an alarm. A session that goes well raises none, and one that
ends with a failure raises an alarm only where the failure is a service error with a status of 500 or more, and a
critical one only where the failure is a broken invariant. So whoever answers for the failure knows from it alone
which alarms there are. `Warrants` says this of an action; there is one rule for each way to build an action, so an
operation warrants its alarms by its text. -/

namespace AnchorRegistry

namespace Failure

/-- The failure is a service error that lies with the service. -/
def IsInternal : Failure → Prop
  | service e => 500 ≤ e.cause.httpStatus
  | _ => False

/-- The failure is a broken invariant. -/
def BreaksInvariant (failure : Failure) : Prop :=
  ∃ message context, failure = service ⟨.invariantViolation message, context⟩

end Failure

namespace Log

theorem Source.name_ne (source : Source) (other : source ≠ .errorHandlers) :
    source.name ≠ Source.errorHandlers.name := by
  cases source with
  | errorHandlers => exact absurd rfl other
  | _ => decide +kernel

/-- A record that somebody should look at. -/
def Record.Alarms (r : Record) : Prop := Level.error.number ≤ r.level.number

theorem Record.Alarms.of_critical {r : Record} (critical : r.level = .critical) : r.Alarms := by
  unfold Alarms
  rw [critical]
  decide

/-- Nothing in the log alarms, and nothing in it is said of an answer. -/
def Calm (records : List Record) : Prop := ∀ r ∈ records, r.source ≠ Source.errorHandlers.name ∧ ¬r.Alarms

/-- Every alarm in the log is due to the failure, and nothing in it is said of an answer. -/
structure Warranted (failure : Failure) (records : List Record) : Prop where
  source : ∀ r ∈ records, r.source ≠ Source.errorHandlers.name
  alarm : ∀ r ∈ records, r.Alarms → failure.IsInternal
  critical : ∀ r ∈ records, r.level = .critical → failure.BreaksInvariant

variable {records : List Record} {r : Record}

theorem calm_nil : Calm [] := nofun

theorem Calm.concat (calm : Calm records) (source : r.source ≠ Source.errorHandlers.name) (routine : ¬r.Alarms) :
    Calm (records ++ [r]) := by
  intro record member
  rcases List.mem_append.1 member with before | last
  · exact calm record before
  · rw [List.mem_singleton.1 last]
    exact ⟨source, routine⟩

/-- A log without an alarm warrants any failure. -/
theorem Calm.warranted (calm : Calm records) (failure : Failure) : Warranted failure records where
  source r member := (calm r member).1
  alarm r member alarms := absurd alarms (calm r member).2
  critical r member critical := absurd (.of_critical critical) (calm r member).2

/-- The first alarm is raised for the failure that follows. -/
theorem Calm.warranted_concat (calm : Calm records) {failure : Failure} (source : r.source ≠ Source.errorHandlers.name)
    (internal : failure.IsInternal) (critical : r.level = .critical → failure.BreaksInvariant) :
    Warranted failure (records ++ [r]) := by
  have before := calm.warranted failure
  refine ⟨fun record member => ?_, fun _ _ _ => internal, fun record member level => ?_⟩
  · rcases List.mem_append.1 member with earlier | last
    · exact before.source record earlier
    · rwa [List.mem_singleton.1 last]
  · rcases List.mem_append.1 member with earlier | last
    · exact before.critical record earlier level
    · rw [List.mem_singleton.1 last] at level
      exact critical level

/-- A bare fault of the store is no reason for an alarm yet. -/
theorem Warranted.calm {fault : StorageFault} (warranted : Warranted (.storage fault) records) : Calm records :=
  fun r member => ⟨warranted.source r member, warranted.alarm r member⟩

end Log

namespace Session

@[simp] theorem log_count (s : Session) (call : Call) : (s.count call).log = s.log := by
  cases call <;> rfl

@[simp] theorem log_reach (s : Session) (call : Call) (statement : Statement) :
    (s.reach call statement).log = s.log := by
  unfold reach
  split
  · exact log_count s call
  · exact log_count s call

end Session

namespace Action

variable {α β : Type} {act other : Action α}

/-- The action raises no alarm without a reason: none if it returns, and otherwise for its failure alone. -/
def Warrants (act : Action α) : Prop :=
  ∀ s : Session, Log.Calm s.log →
    act.Ends s (fun _ t => Log.Calm t.log) fun failure t => Log.Warranted failure t.log

theorem Warrants.pure (a : α) : Warrants (pure a : Action α) := fun _ calm => .pure calm

theorem Warrants.bind {next : α → Action β} (first : act.Warrants) (rest : ∀ a, (next a).Warrants) :
    (act >>= next).Warrants := fun s calm => (first s calm).bind fun a t calm => rest a t calm

theorem Warrants.map (warrants : act.Warrants) (f : α → β) : (f <$> act).Warrants :=
  fun s calm => (warrants s calm).map fun _ _ calm => calm

theorem Warrants.fail (cause : Cause) (anchorId accountReference : Option Text) :
    (Action.fail cause anchorId accountReference : Action α).Warrants :=
  fun _ calm => .fail (calm.warranted _)

theorem Warrants.refuse (violation : Option Violation) (anchorId : Option Text) :
    (refuse violation anchorId).Warrants := by
  cases violation with
  | none => exact .pure ()
  | some v => exact .fail _ anchorId none

theorem Warrants.now_bind {next : Instant → Action β} (rest : ∀ now, (next now).Warrants) :
    (now >>= next).Warrants := fun s calm => .now_bind (rest s.now s calm)

theorem Warrants.freshId_bind {next : EntityId → Action β} (rest : ∀ id, (next id).Warrants) :
    (freshId >>= next).Warrants := fun s calm => .freshId_bind (rest s.freshId s calm)

theorem Warrants.log_bind {r : Log.Record} {next : Unit → Action β}
    (source : r.source ≠ Log.Source.errorHandlers.name) (routine : ¬r.Alarms) (rest : (next ()).Warrants) :
    (log r >>= next).Warrants := fun s calm => .log_bind (rest (s.note r) (calm.concat source routine))

theorem Warrants.execute (select : Store → Attempt α) : (execute select).Warrants := by
  intro s calm
  rw [← s.log_count .execute] at calm
  exact .execute (fun _ _ => calm) fun failure _ => calm.warranted failure

theorem Warrants.executeBinding (statement : Statement) (select : Bool → Store → Attempt α) :
    (executeBinding statement select).Warrants := by
  intro s calm
  rw [← s.log_reach .execute statement] at calm
  exact .executeBinding (fun _ _ => calm) fun failure _ => calm.warranted failure

theorem Warrants.commit (update : Store → Attempt Store) : (commit update).Warrants := by
  intro s calm
  rw [← s.log_count .commit] at calm
  exact .commit (fun _ _ => calm) fun failure _ => calm.warranted failure

theorem Warrants.commitBinding (statement : Statement) (update : Bool → Store → Attempt Store) :
    (commitBinding statement update).Warrants := by
  intro s calm
  rw [← s.log_reach .commit statement] at calm
  exact .commitBinding (fun _ _ => calm) fun failure _ => calm.warranted failure

/-- What is done instead of a rejected write starts without an alarm. -/
theorem Warrants.onIntegrity (warrants : act.Warrants) (instead : other.Warrants) :
    (act.onIntegrity other).Warrants := fun s calm =>
  (warrants s calm).onIntegrity (fun t warranted => instead t warranted.calm) fun _ _ warranted _ => warranted

/-- An alarm is raised for a fault of the store, and for nothing else that ends the action. -/
theorem Warrants.guarded (warrants : act.Warrants) (operation : Text) : (guarded operation act).Warrants := by
  refine fun s calm => (warrants s calm).guarded_noting (fun fault t warranted => ?_) fun _ _ warranted _ => warranted
  refine warranted.calm.warranted_concat ?_ ?_ fun level => absurd level ?_
  · exact Log.Source.name_ne .repository nofun
  · exact (by decide : (500 : Int) ≤ 500)
  · exact (by decide : Log.Level.error ≠ .critical)

/-- The same of a whole session, where the alarm is critical if the fault breaks an invariant. -/
theorem Warrants.inSession (warrants : act.Warrants) : act.inSession.Warrants := by
  refine fun s calm => (warrants s calm).inSession_noting (fun fault t warranted => ?_) fun _ _ warranted _ => warranted
  refine warranted.calm.warranted_concat ?_ ?_ fun level => ?_
  · cases fault <;> exact Log.Source.name_ne .database nofun
  · cases fault <;> exact (by decide : (500 : Int) ≤ 500)
  · cases fault with
    | integrity => exact ⟨_, _, rfl⟩
    | _ => cases level

end Action

namespace Repository

open AnchorRegistry.Action

theorem notice_bind_warrants {α : Type} (message : Text) (extras : Log.Extras) {next : Unit → Action α}
    (rest : (next ()).Warrants) : (notice message extras >>= next).Warrants :=
  .log_bind (Log.Source.name_ne .repository nofun) (by decide : ¬(40 : Int) ≤ 20) rest

theorem createAnchor_warrants (p : Payload.NewAnchor) : (createAnchor p).Warrants := by
  refine (Warrants.refuse _ none).bind fun _ => .freshId_bind fun id => .now_bind fun now => ?_
  refine .bind (((Warrants.commitBinding _ _).onIntegrity ?_).guarded _) fun _ => ?_
  · exact notice_bind_warrants _ _ (.fail _ none _)
  · exact notice_bind_warrants _ _ (.pure _)

theorem listAnchors_warrants : listAnchors.Warrants :=
  ((Warrants.execute _).bind fun _ => .pure _).guarded _

theorem getAnchorById_warrants (raw : Text) : (getAnchorById raw).Warrants := by
  unfold getAnchorById
  split
  · exact .fail _ (some raw) none
  · refine .bind ((Warrants.execute _).guarded _) fun found => ?_
    cases found with
    | nil => exact .fail _ (some raw) none
    | cons anchor rest => exact .pure anchor

/-- Two anchors of one account raise a critical alarm, and the failure that follows is a broken invariant. -/
theorem getAnchorByAccount_warrants (raw : Text) : (getAnchorByAccount raw).Warrants := by
  refine .bind ((Warrants.executeBinding _ _).guarded _) fun found => ?_
  match found with
  | [] => exact .fail _ none _
  | [anchor] => exact .pure anchor
  | first :: second :: rest =>
      intro s calm
      refine .log_bind (.fail (calm.warranted_concat ?_ ?_ fun _ => ⟨_, _, rfl⟩))
      · exact Log.Source.name_ne .repository nofun
      · exact (by decide : (500 : Int) ≤ 500)

theorem updateAnchorMetrics_warrants (raw : Text) (p : Payload.MetricsUpdate) :
    (updateAnchorMetrics raw p).Warrants := by
  refine (Warrants.refuse _ (some raw)).bind fun _ => (getAnchorById_warrants raw).bind fun anchor => ?_
  refine (Warrants.refuse _ (some anchor.id.toText)).bind fun _ => .now_bind fun now => ?_
  exact ((Warrants.commit _).guarded _).bind fun _ => notice_bind_warrants _ _ (.pure _)

theorem createAsset_warrants (raw : Text) (p : Payload.NewAsset) : (createAsset raw p).Warrants := by
  refine (getAnchorById_warrants raw).bind fun anchor => (Warrants.refuse _ (some anchor.id.toText)).bind fun _ => ?_
  refine .freshId_bind fun id => .now_bind fun now => ?_
  refine .bind (((Warrants.commitBinding _ _).onIntegrity (.fail _ (some raw) none)).guarded _) fun _ => ?_
  exact notice_bind_warrants _ _ (.pure _)

theorem listAssetsForAnchor_warrants (raw : Text) : (listAssetsForAnchor raw).Warrants :=
  (getAnchorById_warrants raw).bind fun _ => ((Warrants.execute _).bind fun _ => .pure _).guarded _

namespace Invocation

theorem action_warrants (invocation : Invocation) : invocation.action.Warrants := by
  cases invocation with
  | createAnchor p => exact (createAnchor_warrants p).map _
  | listAnchors => exact listAnchors_warrants.map _
  | getAnchorById raw => exact (getAnchorById_warrants raw).map _
  | getAnchorByAccount raw => exact (getAnchorByAccount_warrants raw).map _
  | updateAnchorMetrics raw p => exact (updateAnchorMetrics_warrants raw p).map _
  | createAsset raw p => exact (createAsset_warrants raw p).map _
  | listAssetsForAnchor raw => exact (listAssetsForAnchor_warrants raw).map _

/-- What the session of a call logs. -/
def logged (invocation : Invocation) (c : Http.Circumstances) (connection : Connection) : List Log.Record :=
  (invocation.action.inSession (c.session connection)).2.log

/-- A call raises no alarm where it returns, and otherwise only those that its failure warrants. -/
theorem run_warrants (invocation : Invocation) (c : Http.Circumstances) (connection : Connection) :
    match (invocation.run c connection).1 with
    | .ok _ => Log.Calm (invocation.logged c connection)
    | .error failure => Log.Warranted failure (invocation.logged c connection) := by
  have ends := invocation.action_warrants.inSession (c.session connection) Log.calm_nil
  unfold Ends at ends
  unfold run logged
  cases outcome : invocation.action.inSession (c.session connection) with
  | mk result t =>
      rw [outcome] at ends
      cases result <;> exact ends

end Invocation

end Repository

end AnchorRegistry
