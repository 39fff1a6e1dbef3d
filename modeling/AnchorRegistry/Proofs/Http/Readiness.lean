import AnchorRegistry.Proofs.Http.Rendered

/-! Readiness. The check makes three queries, one for nothing and one for either table, and stops at the first that
fails; so its answer is a function of how each of them would fail. The first may fail in any way in which a database
is out of reach. For the other two the check knows the faults of the store only: where one of them meets a broken
connection below the store, readiness is answered as something unforeseen. In no case is the store changed. -/

namespace AnchorRegistry

namespace Http

open AnchorRegistry.Action

/-- The queries of the check. -/
inductive Probe where
  | ping
  | anchors
  | assets
deriving DecidableEq

/-- The failure that is planned for a query, counted from one. -/
def Circumstances.planned? (c : Circumstances) (nth : Nat) : Option Failure :=
  c.fault.bind fun fault => if fault.call = .execute ∧ fault.nth = nth then some fault.failure else none

namespace Probe

/-- Which query of the request it is. -/
def nth : Probe → Nat
  | ping => 1
  | anchors => 2
  | assets => 3

/-- How it fails if its table is missing. -/
def missing? (store : Store) : Probe → Option Failure
  | ping => none
  | anchors => if store.anchorTable.isSome then none else some (.storage .operational)
  | assets => if store.assetTable.isSome then none else some (.storage .operational)

theorem eq_of_missing? {store : Store} {probe : Probe} {failure : Failure}
    (missing : probe.missing? store = some failure) : failure = .storage .operational := by
  cases probe <;> simp_all [missing?]

/-- How it fails: as planned, or else for its table. -/
def failure? (c : Circumstances) (store : Store) (probe : Probe) : Option Failure :=
  (c.planned? probe.nth).or (probe.missing? store)

end Probe

/-- How the queries for the tables fail first. -/
def schemaFailure? (c : Circumstances) (store : Store) : Option Failure :=
  (Probe.anchors.failure? c store).or (Probe.assets.failure? c store)

/-- Whether a failure shows that the database is out of reach. -/
def isOutage : Failure → Bool
  | .service _ | .storage _ | .unforeseen (.os _) => true
  | .unforeseen _ => false

/-- What the check may find. -/
inductive Verdict where
  | ready
  | unavailable
  | incomplete
  | unforeseen
deriving DecidableEq

namespace Verdict

def response : Verdict → Response
  | ready => readyResponse
  | unavailable => notReadyResponse "database_unavailable"
  | incomplete => notReadyResponse "schema_missing"
  | unforeseen => unforeseenResponse

/-- No two verdicts are answered alike. -/
theorem eq_of_says {verdict other : Verdict} (alike : verdict.response.Says other.response) : verdict = other := by
  have apart : ("database_unavailable" : Text) ≠ "schema_missing" := by decide
  have reason {t u : Text} (same : (notReadyResponse t).body = (notReadyResponse u).body) : t = u := by
    simpa [notReadyResponse] using same
  cases verdict <;> cases other
  case unavailable.incomplete => exact absurd (reason alike.body) apart
  case incomplete.unavailable => exact absurd (reason alike.body).symm apart
  all_goals first
    | rfl
    | exact absurd alike.status (by decide)

/-- What the check finds, as its queries fail. -/
def ofStore (c : Circumstances) (store : Store) : Verdict :=
  match Probe.ping.failure? c store, schemaFailure? c store with
  | some failure, _ => if isOutage failure then unavailable else unforeseen
  | none, some (.unforeseen _) => unforeseen
  | none, some _ => incomplete
  | none, none => ready

/-- What it finds where perhaps no database was opened. -/
def ofService (service : Service) (c : Circumstances) : Verdict :=
  match service.database with
  | none => unavailable
  | some connection => ofStore c connection.store

end Verdict

/-- A session of the check that has made some queries and met no failure. -/
structure Asked (c : Circumstances) (store : Store) (queries : Nat) (s : Session) : Prop where
  fault : s.fault = c.fault
  store : s.store = store
  executes : s.executes = queries

section Queries

variable {c : Circumstances} {store : Store} {queries : Nat} {s : Session}

theorem asked_session (c : Circumstances) (connection : Connection) :
    Asked c connection.store 0 (c.session connection) := ⟨rfl, rfl, rfl⟩

theorem Asked.planned?_eq (asked : Asked c store queries s) :
    (s.count .execute).planned? .execute = c.planned? (queries + 1) := by
  unfold Session.planned? Circumstances.planned?
  simp only [Session.count, Session.calls, asked.executes, asked.fault]
  cases c.fault <;> rfl

/-- A query goes on or fails as its probe says. -/
theorem Asked.execute {α : Type} {select : Store → Attempt α} (asked : Asked c store queries s) (probe : Probe)
    (turn : probe.nth = queries + 1)
    (fails : ∀ failure, select store = .error failure ↔ probe.missing? store = some failure) :
    (execute select).Ends s (fun _ t => Asked c store (queries + 1) t ∧ probe.failure? c store = none)
      fun failure _ => probe.failure? c store = some failure := by
  have counted : Asked c store (queries + 1) (s.count .execute) :=
    ⟨asked.fault, asked.store, congrArg (· + 1) asked.executes⟩
  rw [Ends, execute_apply, Session.attempt, asked.planned?_eq, asked.store, Probe.failure?, turn]
  cases c.planned? (queries + 1) with
  | some failure => rfl
  | none =>
      rw [Option.none_or]
      cases selected : select store with
      | error failure => exact (fails failure).1 selected
      | ok a =>
          refine ⟨counted, Option.eq_none_iff_forall_ne_some.2 fun failure missing => ?_⟩
          rw [(fails failure).2 missing] at selected
          cases selected

theorem selectAnchors_fails (store : Store) (failure : Failure) :
    store.selectAnchors (fun _ => true) = .error failure ↔ Probe.anchors.missing? store = some failure := by
  unfold Store.selectAnchors Store.rows Probe.missing?
  cases store.anchorTable <;> simp [Except.map, eq_comm]

theorem selectAssets_fails (store : Store) (failure : Failure) :
    store.selectAssets (fun _ => true) = .error failure ↔ Probe.assets.missing? store = some failure := by
  unfold Store.selectAssets Store.rows Probe.missing?
  cases store.assetTable <;> simp [Except.map, eq_comm]

/-- A failure that leaves a session is one that was met in it, named for what it means. -/
theorem ends_outermost {α : Type} {act : Action α} {R : α → Session → Prop} {met : Failure → Prop}
    (ends : act.Ends s R fun failure _ => met failure) :
    act.inSession.Ends s R fun failure _ => ∃ inner now, met inner ∧ failure = Failure.outermost now inner :=
  ends.inSession fun failure t _ found _ => ⟨failure, t.now, found, rfl⟩

/-- The database answers if the first query does; of its failures all that show an outage count. -/
theorem databaseAnswers_asked (asked : Asked c store 0 s) :
    databaseAnswers.Ends s
      (fun answers t =>
        if answers then Asked c store 1 t ∧ Probe.ping.failure? c store = none
        else ∃ failure, Probe.ping.failure? c store = some failure ∧ isOutage failure)
      fun failure _ => Probe.ping.failure? c store = some failure ∧ ¬isOutage failure := by
  let nothing : Store → Attempt Unit := fun _ => .ok ()
  have never (failure : Failure) : nothing store = .error failure ↔ Probe.ping.missing? store = some failure :=
    ⟨nofun, nofun⟩
  have ends := ends_outermost (asked.execute .ping rfl never)
  unfold Ends at ends ⊢
  unfold databaseAnswers
  simp only
  generalize inSession _ s = outcome at ends ⊢
  obtain ⟨_ | _, t⟩ := outcome
  case ok => exact ends
  case error =>
      obtain ⟨met, now, failed, rfl⟩ := ends
      cases met with
      | service e => exact ⟨_, failed, rfl⟩
      | storage fault => exact ⟨_, failed, rfl⟩
      | unforeseen reason =>
          cases reason with
          | os message => exact ⟨_, failed, rfl⟩
          | _ => exact ⟨failed, nofun⟩

/-- The tables are there if both queries for them go on; of their failures only those of the store count. -/
theorem schemaPresent_asked (asked : Asked c store 1 s) :
    schemaPresent.Ends s
      (fun present _ =>
        if present then schemaFailure? c store = none
        else ∃ failure, schemaFailure? c store = some failure ∧ failure.rollsBack)
      fun failure _ => ∃ reason, failure = .unforeseen reason ∧ schemaFailure? c store = some failure := by
  have probe : Action.Ends (do
        let _ ← execute fun store => store.selectAnchors fun _ => true
        let _ ← execute fun store => store.selectAssets fun _ => true : Action Unit) s
      (fun _ _ => schemaFailure? c store = none) fun failure _ => schemaFailure? c store = some failure := by
    unfold schemaFailure?
    refine ((asked.execute .anchors rfl (selectAnchors_fails store)).mono
      (fun _ _ => id) fun failure t met => by rw [met, Option.some_or]).bind ?_
    rintro _ t ⟨asked, anchors⟩
    rw [anchors, Option.none_or]
    exact (asked.execute .assets rfl (selectAssets_fails store)).bind fun _ _ kept => .pure kept.2
  have ends := ends_outermost probe
  unfold Ends at ends ⊢
  unfold schemaPresent
  simp only
  generalize inSession _ s = outcome at ends ⊢
  obtain ⟨_ | _, t⟩ := outcome
  case ok => exact ends
  case error =>
      obtain ⟨met, now, failed, rfl⟩ := ends
      cases met with
      | service e => exact ⟨_, failed, rfl⟩
      | storage fault => exact ⟨_, failed, rfl⟩
      | unforeseen reason => exact ⟨reason, rfl, failed⟩

theorem readiness_asked (asked : Asked c store 0 s) :
    readiness.Ends s (fun response _ => response = (Verdict.ofStore c store).response ∧ response.isSendable)
      fun failure _ => (∃ reason, failure = .unforeseen reason) ∧ Verdict.ofStore c store = .unforeseen := by
  -- the second check is made only where the first one went on, so the verdict is settled check by check
  have sendable : readyResponse.isSendable ∧ (notReadyResponse "database_unavailable").isSendable ∧
      (notReadyResponse "schema_missing").isSendable := by decide
  unfold Verdict.ofStore
  refine ((databaseAnswers_asked asked).mono (fun _ _ => id) ?_).bind ?_
  · rintro failure t ⟨met, inside⟩
    rw [met]
    refine ⟨?_, if_neg inside⟩
    cases failure with
    | unforeseen reason => exact ⟨reason, rfl⟩
    | _ => exact absurd rfl inside
  rintro (_ | _) t answered
  case false =>
      obtain ⟨failure, met, outage⟩ := answered
      simp only [met, outage, if_true]
      exact .log_bind (.pure ⟨rfl, sendable.2.1⟩)
  case true =>
      obtain ⟨asked, pinged⟩ := answered
      rw [pinged]
      refine ((schemaPresent_asked asked).mono (fun _ _ => id) ?_).bind ?_
      · rintro _ t ⟨reason, rfl, met⟩
        rw [met]
        exact ⟨⟨reason, rfl⟩, rfl⟩
      rintro (_ | _) t told
      case false =>
          obtain ⟨failure, met, counts⟩ := told
          rw [met]
          refine .log_bind (.pure ⟨?_, sendable.2.2⟩)
          cases failure with
          | unforeseen reason => cases counts
          | _ => rfl
      case true =>
          have present : schemaFailure? c store = none := told
          rw [present]
          exact .pure ⟨rfl, sendable.1⟩

end Queries

section Responses

variable {service : Service} {c : Circumstances} {request : Request}

theorem answer_ready (found : dispatch request.method request.path = .found .ready) :
    answer service c request = runEndpoint service c (Url.shownPath request.path) .ready none :=
  (Reaches.mk found rfl).answer_eq service c

/-- The check answers with its verdict. -/
theorem respond_ready (service : Service) (c : Circumstances)
    (found : dispatch request.method request.path = .found .ready) :
    (respond service c request).response.Says (Verdict.ofService service c).response := by
  unfold Verdict.ofService
  cases opened : service.database with
  | none =>
      have sendable : (notReadyResponse "database_unavailable").isSendable := by decide
      refine respond_says ?_ sendable
      rw [answer_ready found, runEndpoint, opened]
      rfl
  | some connection =>
      have ends := readiness_asked (asked_session c connection)
      have answered : (answer service c request).1 =
          .ofResult (Url.shownPath request.path) (readiness (c.session connection)).1 := by
        rw [answer_ready found, runEndpoint, opened]
        rfl
      cases run : readiness (c.session connection) with
      | mk result t =>
          rw [run] at answered
          cases result with
          | ok response =>
              obtain ⟨rfl, sendable⟩ := ends.ok run
              exact respond_says (by rw [answered]; rfl) sendable
          | error failure =>
              obtain ⟨⟨reason, rfl⟩, escaped⟩ := ends.error run
              simp only [escaped]
              refine respond_unforeseen fun response given => ?_
              rw [answered] at given
              cases given

theorem respond_ready_says_iff (service : Service) (c : Circumstances)
    (found : dispatch request.method request.path = .found .ready) (verdict : Verdict) :
    (respond service c request).response.Says verdict.response ↔ Verdict.ofService service c = verdict := by
  have sent := respond_ready service c found
  refine ⟨fun told => ?_, ?_⟩
  · exact Verdict.eq_of_says ⟨sent.status.symm.trans told.status, sent.body.symm.trans told.body⟩
  · rintro rfl
    exact sent

theorem respond_ready_store (found : dispatch request.method request.path = .found .ready) :
    (respond service c request).database.map (fun connection => connection.store) =
      service.database.map fun connection => connection.store := by
  rw [respond_database, answer_ready found, runEndpoint]
  cases service.database with
  | none => rfl
  | some connection => exact congrArg some (readiness_ends (c.session connection)).left.store

end Responses

/-- How a query fails where a connection or a statement fails: with a fault of the store, or of the system below. -/
def IsQueryFailure (failure : Failure) : Prop :=
  (∃ fault, failure = .storage fault) ∨ ∃ message, failure = .unforeseen (.os message)

section Truth

variable {c : Circumstances} (foreseen : ∀ nth failure, c.planned? nth = some failure → IsQueryFailure failure)
include foreseen

theorem isQueryFailure_of_failure? {store : Store} {probe : Probe} {failure : Failure}
    (met : probe.failure? c store = some failure) : IsQueryFailure failure := by
  rcases Option.or_eq_some_iff.1 met with planned | ⟨-, missing⟩
  · exact foreseen probe.nth failure planned
  · exact .inl ⟨.operational, Probe.eq_of_missing? missing⟩

theorem isQueryFailure_of_schemaFailure? {store : Store} {failure : Failure}
    (met : schemaFailure? c store = some failure) : IsQueryFailure failure := by
  rcases Option.or_eq_some_iff.1 met with anchors | ⟨-, assets⟩
  · exact isQueryFailure_of_failure? foreseen anchors
  · exact isQueryFailure_of_failure? foreseen assets

/-- The verdict on a store is one of four, and each has its condition. -/
theorem Verdict.ofStore_iff (store : Store) :
    (ofStore c store = .ready ↔ ∀ probe : Probe, probe.failure? c store = none) ∧
    (ofStore c store = .unavailable ↔ Probe.ping.failure? c store ≠ none) ∧
    (ofStore c store = .incomplete ↔ Probe.ping.failure? c store = none ∧
      ∃ fault, schemaFailure? c store = some (.storage fault)) ∧
    (ofStore c store = .unforeseen ↔ Probe.ping.failure? c store = none ∧
      ∃ message, schemaFailure? c store = some (.unforeseen (.os message))) := by
  have every : (∀ probe : Probe, probe.failure? c store = none) ↔
      Probe.ping.failure? c store = none ∧ schemaFailure? c store = none := by
    unfold schemaFailure?
    rw [Option.or_eq_none_iff]
    refine ⟨fun none => ⟨none .ping, none .anchors, none .assets⟩, ?_⟩
    rintro ⟨ping, anchors, assets⟩ (_ | _ | _)
    · exact ping
    · exact anchors
    · exact assets
  rw [every]
  unfold ofStore
  cases ping : Probe.ping.failure? c store with
  | some failure =>
      have outage : isOutage failure := by
        rcases isQueryFailure_of_failure? foreseen ping with ⟨fault, rfl⟩ | ⟨message, rfl⟩ <;> rfl
      simp [outage]
  | none =>
      cases schema : schemaFailure? c store with
      | none => simp
      | some failure =>
          rcases isQueryFailure_of_schemaFailure? foreseen schema with ⟨fault, rfl⟩ | ⟨message, rfl⟩ <;> simp

omit foreseen in
/-- A verdict other than that no database can be reached is one on the store of an opened database. -/
theorem Verdict.ofService_eq_iff (service : Service) (verdict : Verdict) {Finds : Store → Prop}
    (other : verdict ≠ .unavailable) (finds : ∀ store, ofStore c store = verdict ↔ Finds store) :
    ofService service c = verdict ↔ ∃ connection ∈ service.database, Finds connection.store := by
  unfold ofService
  cases service.database with
  | none => exact ⟨fun same => absurd same.symm other, nofun⟩
  | some connection =>
      refine (finds connection.store).trans ⟨fun found => ⟨connection, rfl, found⟩, ?_⟩
      rintro ⟨_, ⟨⟩, found⟩
      exact found

/-- One of four answers is sent, and the store is never changed. The service is ready if a database was opened and no
query fails, out of reach if none was opened or the first query fails, and without a schema if a later query meets a
fault of the store. But if what that query meets is a broken connection below the store, the answer is neither. -/
theorem readiness_told (service : Service) {request : Request} (method : request.method = "GET")
    (path : request.path = "/health/ready") :
    (∃ verdict : Verdict, (respond service c request).response.Says verdict.response) ∧
    ((respond service c request).database.map (fun connection => connection.store) =
      service.database.map fun connection => connection.store) ∧
    ((respond service c request).response.Says readyResponse ↔
      ∃ connection ∈ service.database, ∀ probe : Probe, probe.failure? c connection.store = none) ∧
    ((respond service c request).response.Says (notReadyResponse "database_unavailable") ↔
      ∀ connection ∈ service.database, Probe.ping.failure? c connection.store ≠ none) ∧
    ((respond service c request).response.Says (notReadyResponse "schema_missing") ↔
      ∃ connection ∈ service.database, Probe.ping.failure? c connection.store = none ∧
        ∃ fault, schemaFailure? c connection.store = some (.storage fault)) ∧
    ((respond service c request).response.Says unforeseenResponse ↔
      ∃ connection ∈ service.database, Probe.ping.failure? c connection.store = none ∧
        ∃ message, schemaFailure? c connection.store = some (.unforeseen (.os message))) := by
  have found : dispatch request.method request.path = .found .ready := by
    rw [method, path]
    decide
  have answers := respond_ready_says_iff service c found
  have conditions := Verdict.ofStore_iff foreseen
  refine ⟨⟨_, respond_ready service c found⟩, respond_ready_store found, ?_, ?_, ?_, ?_⟩
  · refine (answers .ready).trans ?_
    exact Verdict.ofService_eq_iff service .ready (by decide) fun store => (conditions store).1
  · refine (answers .unavailable).trans ?_
    unfold Verdict.ofService
    cases service.database with
    | none => exact ⟨fun _ => nofun, fun _ => rfl⟩
    | some connection =>
        refine (conditions connection.store).2.1.trans ⟨?_, fun fails => fails connection rfl⟩
        rintro fails _ ⟨⟩
        exact fails
  · refine (answers .incomplete).trans ?_
    exact Verdict.ofService_eq_iff service .incomplete (by decide) fun store => (conditions store).2.2.1
  · refine (answers .unforeseen).trans ?_
    exact Verdict.ofService_eq_iff service .unforeseen (by decide) fun store => (conditions store).2.2.2

end Truth

end Http

namespace Sample

/-- The connection breaks below the store at the second query of a request. -/
def disconnected : Http.Circumstances :=
  { circumstances with fault := some ⟨.execute, 2, .unforeseen (.os "Connection refused")⟩ }

def readyGet : Http.Request where
  method := "GET"
  site := "http://localhost"
  path := "/health/ready"

end Sample

/-- On a store with both tables a connection that breaks at the second query is answered as something unforeseen, not as
a service that is not ready. -/
theorem Http.readiness_told_disconnected :
    (respond ⟨some Sample.start, []⟩ Sample.disconnected Sample.readyGet).response.Says unforeseenResponse ∧
      ¬(respond ⟨some Sample.start, []⟩ Sample.disconnected Sample.readyGet).response.Says
        (notReadyResponse "schema_missing") := by
  have planned (nth : Nat) : Sample.disconnected.planned? nth =
      if Call.execute = Call.execute ∧ 2 = nth then some (.unforeseen (.os "Connection refused")) else none := rfl
  have foreseen : ∀ nth failure, Sample.disconnected.planned? nth = some failure → IsQueryFailure failure := by
    intro nth failure struck
    rw [planned] at struck
    split at struck
    · exact .inr ⟨_, (Option.some.inj struck).symm⟩
    · cases struck
  obtain ⟨-, -, -, -, incomplete, unforeseen⟩ :=
    @readiness_told _ foreseen ⟨some Sample.start, []⟩ Sample.readyGet rfl rfl
  refine ⟨unforeseen.2 ⟨Sample.start, rfl, by decide, "Connection refused", by decide⟩, fun told => ?_⟩
  obtain ⟨connection, opened, -, fault, met⟩ := incomplete.1 told
  cases opened
  cases met

end AnchorRegistry
