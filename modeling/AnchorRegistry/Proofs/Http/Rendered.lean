import AnchorRegistry.Proofs.Http.Dispatch
import AnchorRegistry.Proofs.Http.Status

/-! Requests render calls. A request that reaches an endpoint with a payload makes the endpoint's one call: it
leaves the connection that the call leaves, and `told` says what is sent of the outcome, rows under their wire
names or the envelope of a service error. There is one exception: an error whose message holds a text without an
encoding has no envelope that can be sent, and the caller is told of something unforeseen instead. A body that is
no JSON, and a payload that is rejected, are answered without any call. -/

namespace AnchorRegistry

open Repository (Invocation Rows)
open Http (Circumstances)

namespace Http

/-- The response says what the other says; it may have more headers. -/
structure Response.Says (sent response : Response) : Prop where
  status : sent.status = response.status
  body : sent.body = response.body

/-- What is sent of a call's outcome. -/
def told (invocation : Invocation) : Except Failure Rows → Response
  | .ok rows => success invocation rows
  | .error (.service e) =>
      if e.response.storable then { status := e.cause.httpStatus, body := some e.response } else unforeseenResponse
  | .error _ => unforeseenResponse

/-- What is sent is the answer, and the log is that of the session and the answer; or the answer cannot be sent, and
the log says so last. -/
theorem respond_cases (service : Service) (c : Circumstances) (request : Request) :
    (∃ response, (answer service c request).1.response = some response ∧ response.isSendable ∧
      (respond service c request).response.Says response ∧
      (respond service c request).log = (answer service c request).2.2 ++ (answer service c request).1.log) ∨
    (∀ response, (answer service c request).1.response = some response → ¬response.isSendable) ∧
      (respond service c request).response = unforeseenResponse ∧
      (respond service c request).log = (answer service c request).2.2 ++ (answer service c request).1.log ++
        [unforeseenRecord (Url.shownPath request.path)] := by
  unfold respond
  cases answered : (answer service c request).1.response with
  | none => exact .inr ⟨nofun, by simp only [answered, and_self]⟩
  | some response =>
      by_cases sendable : response.isSendable
      · refine .inl ⟨response, rfl, sendable, ?_⟩
        simp only [answered, sendable, if_true, and_true]
        exact ⟨rfl, rfl⟩
      · refine .inr ⟨?_, ?_⟩
        · rintro _ ⟨⟩
          exact sendable
        · simp only [answered, sendable, Bool.false_eq_true, if_false, and_self]

theorem respond_says {service : Service} {c : Circumstances} {request : Request} {response : Response}
    (answered : (answer service c request).1.response = some response) (sendable : response.isSendable) :
    (respond service c request).response.Says response := by
  rcases respond_cases service c request with ⟨other, given, -, told, -⟩ | ⟨unsendable, -⟩
  · rw [answered, Option.some.injEq] at given
    exact given ▸ told
  · exact absurd sendable (unsendable response answered)

theorem respond_unforeseen {service : Service} {c : Circumstances} {request : Request}
    (unsent : ∀ response, (answer service c request).1.response = some response → ¬response.isSendable) :
    (respond service c request).response.Says unforeseenResponse := by
  rcases respond_cases service c request with ⟨response, given, sendable, -⟩ | ⟨-, constant, -⟩
  · exact absurd sendable (unsent response given)
  · rw [constant]
    exact ⟨rfl, rfl⟩

section Requests

variable {connection : Connection} {c : Circumstances} {request : Request} {endpoint : Endpoint} {body : Option Json}

theorem answer_of_reaches (connection : Connection) (c : Circumstances) (origins : List Text)
    (reaches : Reaches request endpoint body) :
    answer ⟨some connection, origins⟩ c request =
      runEndpoint ⟨some connection, origins⟩ c (Url.shownPath request.path) endpoint body :=
  reaches.answer_eq ⟨some connection, origins⟩ c

/-- A call is told as its outcome says; what it returns can always be sent. -/
theorem respond_told (reachable : Reachable connection) (unreplaced : c.replacement = none) (origins : List Text)
    {invocation : Invocation} (reaches : Reaches request endpoint body)
    (call : endpoint.invocation? body = some (.accepted invocation)) :
    (respond ⟨some connection, origins⟩ c request).database = some (invocation.run c connection).2 ∧
      (respond ⟨some connection, origins⟩ c request).response.Says
        (told invocation (invocation.run c connection).1) := by
  have answered := (answer_of_reaches connection c origins reaches).trans
    (runEndpoint_accepted origins connection _ call unreplaced)
  rw [respond_database, answered]
  refine ⟨rfl, ?_⟩
  cases ran : invocation.run c connection with
  | mk result after =>
      rw [ran] at answered
      cases result with
      | ok rows =>
          have sendable : (success invocation rows).isSendable :=
            (Invocation.run_ok ran).storable reachable.settled
          exact respond_says (by rw [answered]; rfl) sendable
      | error failure =>
          cases failure with
          | service e =>
              have enveloped : (answer ⟨some connection, origins⟩ c request).1.response =
                  some { status := e.cause.httpStatus, body := some e.response } := by
                rw [answered]
                rfl
              unfold told
              simp only
              split
              · rename_i encodable
                exact respond_says enveloped encodable
              · rename_i unencodable
                refine respond_unforeseen fun response given => ?_
                rw [enveloped, Option.some.injEq] at given
                rw [← given]
                exact unencodable
          | storage fault | unforeseen reason =>
              refine respond_unforeseen fun response given => ?_
              rw [answered] at given
              cases given

theorem respond_rejected (origins : List Text) {details : List Payload.Detail}
    (reaches : Reaches request endpoint body) (call : endpoint.invocation? body = some (.rejected details)) :
    (respond ⟨some connection, origins⟩ c request).database = some connection ∧
      (respond ⟨some connection, origins⟩ c request).response.Says (invalidPayload details) := by
  have answered := (answer_of_reaches connection c origins reaches).trans
    (runEndpoint_rejected origins connection _ call)
  rw [respond_database, answered]
  refine ⟨rfl, respond_says (by rw [answered]; rfl) ?_⟩
  exact isSendable_invalidPayload (Endpoint.tellable_invocation? call _ rfl)

theorem respond_unreadable (origins : List Text) {fault : BodyFault}
    (found : dispatch request.method request.path = .found endpoint) (takes : endpoint.takesBody)
    (unread : readBody (request.body.getD []) = .error fault) :
    (respond ⟨some connection, origins⟩ c request).database = some connection ∧
      (respond ⟨some connection, origins⟩ c request).response.Says fault.response := by
  have answered : answer ⟨some connection, origins⟩ c request =
      (.ofBodyFault (Url.shownPath request.path) fault, some connection, []) := by
    unfold answer
    simp only [found, takes, if_true, unread]
  rw [respond_database, answered]
  refine ⟨rfl, respond_says ?_ fault.isSendable_response⟩
  rw [answered]
  exact Answer.response_ofBodyFault _ fault

/-- On an opened database whose operations are not replaced, a request finds its endpoint by the order of the
routes, every account has a path of its own, and no stored anchor is out of reach; with a payload it makes the one
call of its endpoint, under its own circumstances, and the outcome is told; and without a payload it changes nothing
and is told what is wrong. -/
theorem respond_renders (reachable : Reachable connection) (unreplaced : c.replacement = none) (origins : List Text)
    (request : Request) :
    (∀ endpoint, dispatch request.method request.path = .found endpoint ↔ endpoint ≠ .listAssets "account" ∧
      ∃ segments, request.path = pathOf segments ∧ (∀ segment ∈ segments, ('/' : CodePoint) ∉ segment) ∧
        Addresses endpoint request.method segments) ∧
    (∀ account : Text, account ≠ [] → ('/' : CodePoint) ∉ account →
      dispatch "GET" (pathOf ["anchors", "account", account]) = .found (.anchorByAccount account)) ∧
    (∀ anchor ∈ connection.store.anchors, ∀ raw, EntityId.parse? raw = some anchor.id →
      dispatch "GET" (pathOf ["anchors", raw]) = .found (.anchorById raw) ∧
      dispatch "PUT" (pathOf ["anchors", raw, "metrics"]) = .found (.updateMetrics raw) ∧
      dispatch "GET" (pathOf ["anchors", raw, "assets"]) = .found (.listAssets raw) ∧
      dispatch "POST" (pathOf ["anchors", raw, "assets"]) = .found (.createAsset raw)) ∧
    (∀ endpoint body invocation, Reaches request endpoint body →
      endpoint.invocation? body = some (.accepted invocation) →
      (respond ⟨some connection, origins⟩ c request).database = some (invocation.run c connection).2 ∧
      (respond ⟨some connection, origins⟩ c request).response.Says
        (told invocation (invocation.run c connection).1)) ∧
    (∀ endpoint body details, Reaches request endpoint body →
      endpoint.invocation? body = some (.rejected details) →
      (respond ⟨some connection, origins⟩ c request).database = some connection ∧
      (respond ⟨some connection, origins⟩ c request).response.Says (invalidPayload details)) ∧
    ∀ endpoint fault, dispatch request.method request.path = .found endpoint → endpoint.takesBody →
      readBody (request.body.getD []) = .error fault →
      (respond ⟨some connection, origins⟩ c request).database = some connection ∧
      (respond ⟨some connection, origins⟩ c request).response.Says fault.response := by
  refine ⟨fun endpoint => dispatch_eq_found_iff, fun account nonempty free => dispatch_anchorByAccount nonempty free,
    fun anchor _ raw read => dispatch_of_parse? read, ?_, ?_, ?_⟩
  · intro endpoint body invocation reaches call
    exact respond_told reachable unreplaced origins reaches call
  · intro endpoint body details reaches call
    exact respond_rejected origins reaches call
  · intro endpoint fault found takes unread
    exact respond_unreadable origins found takes unread

end Requests

end Http

/-- The commit finds the account taken: another registration of it came first. -/
def Sample.outrun : Circumstances := { circumstances with fault := some ⟨.commit, 1, .storage .integrity⟩ }

/-- A registration of a taken account raises a service error; where the account holds a lone surrogate, the caller is
told of something unforeseen. -/
theorem Http.respond_renders_surrogate :
    ((Invocation.createAnchor Sample.surrogateProfile).run Sample.outrun Sample.start).1 =
        .error (.taken Sample.surrogateProfile.accountReference ⟨5⟩) ∧
      (respond ⟨some Sample.start, []⟩ Sample.outrun Sample.surrogatePost).response.Says unforeseenResponse := by
  have reachable : Reachable Sample.start := Store.Created.reachable .directly []
  obtain ⟨-, -, -, rendered, -⟩ := respond_renders reachable (c := Sample.outrun) rfl [] Sample.surrogatePost
  obtain ⟨body, reaches, call⟩ := Sample.reaches_surrogatePost
  have taken : ((Invocation.createAnchor Sample.surrogateProfile).run Sample.outrun Sample.start).1 =
      .error (.taken Sample.surrogateProfile.accountReference ⟨5⟩) := by decide +kernel
  have told := (rendered _ _ _ reaches call).2
  rw [taken] at told
  exact ⟨taken, told⟩

end AnchorRegistry
