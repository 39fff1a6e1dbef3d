import AnchorRegistry.Proofs.Http.Rendered
import AnchorRegistry.Proofs.Interruption

/-! What failures disclose. A request for anchors that is stopped by a failure, its own or that of whatever stands in
for the repository, is answered from the failure alone. Of a failure that lies with the service only the status, the
severity and the time are told, and of one that nobody classified nothing at all. So two requests that differ in
nothing but such a failure cannot be told apart, whatever was broken and wherever it broke. -/

namespace AnchorRegistry

open Repository (Invocation Rows)
open Http (Circumstances)

namespace Repository.Invocation

/-- Whether the call inserts a row, so that a broken integrity at its commit is an answer for the caller. -/
def inserts : Invocation → Bool
  | createAnchor _ | createAsset _ _ => true
  | _ => false

/-- Anything but a rejected row is an unavailable store, whatever broke. -/
theorem interrupted_eq {invocation : Invocation} {call : Call} {fault : StorageFault}
    (mute : fault = .integrity → call = .commit → invocation.inserts = false) (now : Instant) (owner : Operation) :
    invocation.interrupted now call owner fault =
      .service ⟨.storageUnavailable "Storage operation failed" owner.name, { timestamp := now }⟩ := by
  cases invocation with
  | createAnchor p | createAsset raw p =>
      cases call with
      | execute => rfl
      | commit =>
          cases fault with
          | integrity => exact Bool.noConfusion (mute rfl rfl)
          | _ => rfl
  | _ => rfl

/-- Which fault interrupts a call makes no difference, so long as neither is an answer. -/
theorem run_interrupting_congr {invocation : Invocation} {call : Call} {nth : Nat} {fault other : StorageFault}
    (counted : 0 < nth) (mute : fault = .integrity → call = .commit → invocation.inserts = false)
    (otherMute : other = .integrity → call = .commit → invocation.inserts = false) (c : Circumstances)
    (connection : Connection) :
    (invocation.run (c.interrupting call nth fault) connection).1 =
      (invocation.run (c.interrupting call nth other) connection).1 := by
  -- a plan replaces whatever was planned before
  let plain : Circumstances := { c with fault := none }
  have unfaulted : plain.fault = none := rfl
  change (invocation.run (plain.interrupting call nth fault) connection).1 =
    (invocation.run (plain.interrupting call nth other) connection).1
  rcases Nat.lt_or_ge (invocation.calls plain connection call) nth with early | late
  · rw [(run_spared unfaulted fault early).1, (run_spared unfaulted other early).1]
  · obtain ⟨owner, owned, failed, -⟩ := run_struck unfaulted fault counted late
    obtain ⟨_, same, failedToo, -⟩ := run_struck unfaulted other counted late
    rw [owned, Option.some.injEq] at same
    rw [failed, failedToo, interrupted_eq mute, interrupted_eq otherMute, same]

end Repository.Invocation

namespace Http

/-- The failure that stops a request: no database was opened and nothing stands in for the repository, or what stands
in for it raises the failure, or the call of the request fails with it. -/
inductive Meets (database : Option Connection) (c : Circumstances) (request : Request) : Failure → Prop
  | unopened {endpoint : Endpoint} {body : Option Json} {checked : Payload.Checked Invocation}
    (reaches : Reaches request endpoint body) (call : endpoint.invocation? body = some checked)
    (unreplaced : c.replacement = none) (closed : database = none) :
    Meets database c request (.unforeseen (.runtime "Database not initialized"))
  | replaced {endpoint : Endpoint} {body : Option Json} {invocation : Invocation} {failure : Failure}
    (reaches : Reaches request endpoint body) (call : endpoint.invocation? body = some (.accepted invocation))
    (replacement : c.replacement = some failure) : Meets database c request failure
  | ran {endpoint : Endpoint} {body : Option Json} {invocation : Invocation} {connection : Connection}
    {failure : Failure} (reaches : Reaches request endpoint body)
    (call : endpoint.invocation? body = some (.accepted invocation)) (unreplaced : c.replacement = none)
    (opened : database = some connection) (failed : (invocation.run c connection).1 = .error failure) :
    Meets database c request failure

/-- The answer is made from the failure alone. -/
theorem Meets.answer_eq {database : Option Connection} {c : Circumstances} {request : Request} {failure : Failure}
    (meets : Meets database c request failure) (origins : List Text) :
    (answer ⟨database, origins⟩ c request).1 = .ofFailure (Url.shownPath request.path) failure := by
  cases meets with
  | unopened reaches call unreplaced closed =>
      subst closed
      rw [reaches.answer_eq, runEndpoint_eq _ _ call]
      unfold serve
      rw [unreplaced]
  | replaced reaches call replacement =>
      rw [reaches.answer_eq, runEndpoint_eq _ _ call]
      unfold serve
      rw [replacement]
  | ran reaches call unreplaced opened failed =>
      subst opened
      rw [reaches.answer_eq, runEndpoint_eq _ _ call]
      unfold serve
      rw [unreplaced]
      simp only [failed]
      rfl

/-- The response depends on the request and on the answer to it. -/
theorem respond_response (service : Service) (c : Circumstances) (request : Request) :
    (respond service c request).response =
      match (answer service c request).1.response with
      | some response =>
        if response.isSendable then
          { response with headers := response.headers ++ originHeader service.allowedOrigins request }
        else unforeseenResponse
      | none => unforeseenResponse := by
  unfold respond
  simp only
  cases (answer service c request).1.response with
  | none => rfl
  | some response =>
      simp only
      split <;> rfl

section Pairs

variable {service : Service} {c c' : Circumstances} {request : Request} {endpoint : Endpoint} {body : Option Json}

theorem Endpoint.eq_of_inserts {invocation : Invocation} (inserts : invocation.inserts)
    (call : endpoint.invocation? body = some (.accepted invocation)) :
    endpoint = .createAnchor ∨ ∃ id, endpoint = .createAsset id := by
  cases endpoint with
  | createAnchor => exact .inl rfl
  | createAsset id => exact .inr ⟨id, rfl⟩
  | updateMetrics id =>
      unfold Endpoint.invocation? at call
      cases read : readPayload Payload.MetricsUpdate.ofJson body with
      | rejected details => rw [read] at call; cases call
      | accepted p => rw [read] at call; cases call; cases inserts
  | _ => cases call <;> cases inserts

/-- Of the circumstances the response depends only on what the call comes to. -/
theorem respond_response_of_runs (unready : dispatch request.method request.path ≠ .found .ready)
    (replacement : c'.replacement = c.replacement)
    (runs : ∀ connection ∈ service.database, ∀ endpoint body invocation, Reaches request endpoint body →
      endpoint.invocation? body = some (.accepted invocation) →
      (invocation.run c' connection).1 = (invocation.run c connection).1) :
    (respond service c' request).response = (respond service c request).response := by
  suffices same : (answer service c' request).1.response = (answer service c request).1.response by
    rw [respond_response, respond_response, same]
  unfold answer
  cases found : dispatch request.method request.path with
  | found endpoint =>
      simp only
      cases read : if endpoint.takesBody then readBody (request.body.getD []) else .ok none with
      | error fault => rfl
      | ok body =>
          simp only
          cases call : endpoint.invocation? body with
          | none =>
              cases endpoint with
              | health => rfl
              | ready => exact absurd found unready
              | _ => cases call
          | some checked =>
              rw [runEndpoint_eq _ _ call, runEndpoint_eq _ _ call]
              unfold serve
              rw [replacement]
              cases c.replacement with
              | some failure => cases checked <;> rfl
              | none =>
                  cases opened : service.database with
                  | none => rfl
                  | some connection =>
                      cases checked with
                      | rejected details => rfl
                      | accepted invocation =>
                          simp only [runs connection opened endpoint body invocation ⟨found, read⟩ call]
  | _ => rfl

end Pairs

/-- What is told of a service error that lies with the service. -/
theorem response_of_internal {e : ServiceError} (internal : 500 ≤ e.cause.httpStatus) :
    e.response = errorEnvelope internalCode genericFailureMessage Category.internal.name e.cause.severity.name
      [("timestamp", .string e.context.timestamp.toUtcText)] := by
  unfold ServiceError.response Cause.isInternal
  simp only [internal, decide_true, if_true]

/-- The fault is an answer for the caller: the row that the request inserts is rejected. -/
def Request.Rejects (request : Request) (call : Call) (fault : StorageFault) : Prop :=
  fault = .integrity ∧ call = .commit ∧ (dispatch request.method request.path = .found .createAnchor ∨
    ∃ id, dispatch request.method request.path = .found (.createAsset id))

section Failures

variable {database : Option Connection} {c : Circumstances} {request : Request} (origins : List Text)

/-- A failure that nobody classified is answered with a constant. -/
theorem Meets.response_of_unclassified {failure : Failure} (meets : Meets database c request failure)
    (unclassified : ∀ e, failure ≠ .service e) :
    (respond ⟨database, origins⟩ c request).response = unforeseenResponse := by
  rw [respond_response, meets.answer_eq origins]
  cases failure with
  | service e => exact absurd rfl (unclassified e)
  | storage fault | unforeseen reason => rfl

/-- Internal errors that agree in status, severity and time are answered alike. -/
theorem Meets.response_eq_of_internal {database' : Option Connection} {c' : Circumstances} {e e' : ServiceError}
    (meets : Meets database c request (.service e)) (meets' : Meets database' c' request (.service e'))
    (internal : 500 ≤ e.cause.httpStatus) (status : e'.cause.httpStatus = e.cause.httpStatus)
    (severity : e'.cause.severity = e.cause.severity) (time : e'.context.timestamp = e.context.timestamp) :
    (respond ⟨database', origins⟩ c' request).response = (respond ⟨database, origins⟩ c request).response := by
  have body : e'.response = e.response := by
    rw [response_of_internal internal, response_of_internal (status.symm ▸ internal), severity, time]
  rw [respond_response, respond_response, meets.answer_eq origins, meets'.answer_eq origins]
  simp only [Answer.ofFailure, status, body]

/-- Which fault interrupts a request makes no difference, so long as neither is an answer. -/
theorem respond_interrupting_congr (unready : dispatch request.method request.path ≠ .found .ready) {call : Call}
    {nth : Nat} {fault other : StorageFault} (counted : 0 < nth) (mute : ¬request.Rejects call fault)
    (otherMute : ¬request.Rejects call other) :
    (respond ⟨database, origins⟩ (c.interrupting call nth fault) request).response =
      (respond ⟨database, origins⟩ (c.interrupting call nth other) request).response := by
  refine respond_response_of_runs unready rfl ?_
  intro connection _ endpoint body invocation reaches made
  have silent {fault : StorageFault} (mute : ¬request.Rejects call fault) (integrity : fault = .integrity)
      (commit : call = .commit) : invocation.inserts = false := by
    by_contra inserts
    refine mute ⟨integrity, commit, ?_⟩
    rw [reaches.found]
    rcases Endpoint.eq_of_inserts (by simpa using inserts) made with rfl | ⟨id, rfl⟩
    · exact .inl rfl
    · exact .inr ⟨id, rfl⟩
  exact Invocation.run_interrupting_congr counted (silent mute) (silent otherMute) c connection

end Failures

/-- Nothing of an internal failure reaches the caller but its status, its severity and its time, and of a failure that
nobody classified not even these: what is sent does not depend on what the failure was, on where a fault of the store
struck a call, or on what kind of fault it was, unless it rejected the row of the request. -/
theorem respond_conceals (origins : List Text) (request : Request) :
    (∀ database database' (c c' : Circumstances) e e',
      Meets database c request (.service e) → Meets database' c' request (.service e') →
      500 ≤ e.cause.httpStatus → e'.cause.httpStatus = e.cause.httpStatus →
      e'.cause.severity = e.cause.severity → e'.context.timestamp = e.context.timestamp →
      (respond ⟨database', origins⟩ c' request).response = (respond ⟨database, origins⟩ c request).response) ∧
    ((∀ database (c : Circumstances) failure, Meets database c request failure → (∀ e, failure ≠ .service e) →
        (respond ⟨database, origins⟩ c request).response = unforeseenResponse) ∧
      (unforeseenResponse.body.bind (Json.member? "error")).bind (Json.member? "timestamp") = none) ∧
    (dispatch request.method request.path ≠ .found .ready →
      ∀ database (c : Circumstances) call nth fault other, 0 < nth →
      ¬request.Rejects call fault → ¬request.Rejects call other →
      (respond ⟨database, origins⟩ (c.interrupting call nth fault) request).response =
        (respond ⟨database, origins⟩ (c.interrupting call nth other) request).response) := by
  refine ⟨?_, ⟨?_, rfl⟩, ?_⟩
  · intro database database' c c' e e' meets meets' internal status severity time
    exact meets.response_eq_of_internal origins meets' internal status severity time
  · intro database c failure meets unclassified
    exact meets.response_of_unclassified origins unclassified
  · intro unready database c call nth fault other counted mute otherMute
    exact respond_interrupting_congr origins unready counted mute otherMute

end Http

namespace Sample

/-- The list of all anchors as a request. -/
def listing : Http.Request where
  method := "GET"
  site := "http://localhost"
  path := "/anchors"

/-- Circumstances in which something else stands in for the repository and fails. -/
def standIn (failure : Failure) : Circumstances := { circumstances with replacement := some failure }

/-- A database that cannot be reached. -/
def unreachable : ServiceError := ⟨.storageUnavailable "no route to host" "connect", { timestamp := ⟨5⟩ }⟩

/-- Rows that contradict each other. -/
def contradictory : ServiceError :=
  ⟨.invariantViolation "Duplicate anchors", { timestamp := ⟨5⟩, accountReference := some "GACME" }⟩

theorem reaches_listing : Http.Reaches listing .listAnchors none := ⟨by decide +kernel, rfl⟩

end Sample

/-- An unreachable database and contradictory rows look the same to the caller, and so do a driver that breaks and an
integrity that breaks while the rows are read. -/
theorem Http.respond_conceals_listing :
    (respond ⟨some Sample.start, []⟩ (Sample.standIn (.service Sample.contradictory)) Sample.listing).response =
        (respond ⟨none, []⟩ (Sample.standIn (.service Sample.unreachable)) Sample.listing).response ∧
      (respond ⟨none, []⟩ Sample.circumstances Sample.listing).response = unforeseenResponse ∧
      (respond ⟨some Sample.start, []⟩ (Sample.circumstances.interrupting .execute 1 .driver) Sample.listing).response =
        (respond ⟨some Sample.start, []⟩ (Sample.circumstances.interrupting .execute 1 .integrity)
          Sample.listing).response := by
  have reaches := Sample.reaches_listing
  obtain ⟨internal, ⟨unclassified, -⟩, interrupted⟩ := respond_conceals [] Sample.listing
  refine ⟨?_, ?_, ?_⟩
  · exact internal _ _ _ _ _ _ (.replaced reaches rfl rfl) (.replaced reaches rfl rfl) (by decide) rfl rfl rfl
  · exact unclassified _ _ _ (.unopened reaches rfl rfl rfl) nofun
  · refine interrupted ?_ _ _ _ _ _ _ (by decide) (fun rejects => ?_) fun rejects => ?_
    · rw [reaches.found]
      exact nofun
    · exact nomatch rejects.2.1
    · exact nomatch rejects.2.1

end AnchorRegistry
