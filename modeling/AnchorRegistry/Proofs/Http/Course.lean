import AnchorRegistry.Proofs.Invocation

/-! The course of a request on an opened database. It goes astray in the routes, is stopped at its body or
its payload, asks for health, or makes one call of the repository in a session of its own; `Course` has one
constructor for each way and says which answer and which connection come of it. Only a call can change the
store, and what is sent in the end has the status of the answer unless its body cannot be encoded. -/

namespace AnchorRegistry.Http

open Repository (Invocation Rows)

/-- The call that an endpoint makes, once its payload is read; the endpoints for health make none. -/
def Endpoint.invocation? (body : Option Json) : Endpoint → Option (Payload.Checked Invocation)
  | health | ready => none
  | listAnchors => some (.accepted .listAnchors)
  | createAnchor => some ((readPayload Payload.NewAnchor.ofJson body).map .createAnchor)
  | anchorByAccount accountReference => some (.accepted (.getAnchorByAccount accountReference))
  | anchorById id => some (.accepted (.getAnchorById id))
  | updateMetrics id => some ((readPayload Payload.MetricsUpdate.ofJson body).map (.updateAnchorMetrics id))
  | listAssets id => some (.accepted (.listAssetsForAnchor id))
  | createAsset id => some ((readPayload Payload.NewAsset.ofJson body).map (.createAsset id))

def wireRows : Rows → Json
  | .anchor row => wireAnchor row
  | .anchors rows => .array (rows.map wireAnchor)
  | .asset row => wireAsset row
  | .assets rows => .array (rows.map wireAsset)

/-- The status of a call that returned. -/
def successStatus : Invocation → Int
  | .createAnchor _ | .createAsset _ _ => 201
  | _ => 200

def success (invocation : Invocation) (rows : Rows) : Response where
  status := successStatus invocation
  body := some (wireRows rows)

theorem map_operation {α : Type} (f : α → Invocation) (response : α → Action Response)
    (same : ∀ payload, response payload = success (f payload) <$> (f payload).action)
    (checked : Payload.Checked α) :
    checked.map response = (checked.map f).map fun invocation => success invocation <$> invocation.action := by
  cases checked with
  | accepted payload => exact congrArg Payload.Checked.accepted (same payload)
  | rejected details => rfl

theorem Endpoint.operation_eq {endpoint : Endpoint} {body : Option Json} {checked : Payload.Checked Invocation}
    (call : endpoint.invocation? body = some checked) :
    endpoint.operation body = checked.map fun invocation => success invocation <$> invocation.action := by
  cases endpoint with
  | health | ready => cases call
  | createAnchor | updateMetrics | createAsset =>
      cases call
      refine map_operation _ _ (fun payload => ?_) _
      simp only [bind_pure_comp, Invocation.action, Functor.map_map]
      rfl
  | _ =>
      cases call
      simp only [operation, bind_pure_comp, Payload.Checked.map, Invocation.action, Functor.map_map]
      rfl

/-- The request reaches an endpoint, and its body is read where the endpoint takes one. -/
structure Reaches (request : Request) (endpoint : Endpoint) (body : Option Json) : Prop where
  found : dispatch request.method request.path = .found endpoint
  read : (if endpoint.takesBody then readBody (request.body.getD []) else .ok none) = .ok body

theorem Reaches.answer_eq {request : Request} {endpoint : Endpoint} {body : Option Json}
    (reaches : Reaches request endpoint body) (service : Service) (c : Circumstances) :
    answer service c request = runEndpoint service c (Url.shownPath request.path) endpoint body := by
  unfold answer
  simp only [reaches.found, reaches.read]

inductive Course (c : Circumstances) (connection : Connection) (request : Request) :
    Answer → Connection → Prop
  | astray {response : Response} (lost : ∀ endpoint, dispatch request.method request.path ≠ .found endpoint)
    (status : response.status = 404 ∨ response.status = 405 ∨ response.status = 307)
    (sendable : response.isSendable) : Course c connection request ⟨some response, []⟩ connection
  | unreadable {endpoint : Endpoint} {fault : BodyFault}
    (found : dispatch request.method request.path = .found endpoint) (takes : endpoint.takesBody)
    (unread : readBody (request.body.getD []) = .error fault) :
    Course c connection request (.ofBodyFault (Url.shownPath request.path) fault) connection
  | healthy (found : dispatch request.method request.path = .found .health) :
    Course c connection request ⟨some healthyResponse, []⟩ connection
  | readied {after : Connection} (found : dispatch request.method request.path = .found .ready)
    (kept : after.store = connection.store) :
    Course c connection request
      (.ofResult (Url.shownPath request.path) (readiness (c.session connection)).1) after
  | rejected {endpoint : Endpoint} {body : Option Json} {details : List Payload.Detail}
    (reaches : Reaches request endpoint body) (call : endpoint.invocation? body = some (.rejected details)) :
    Course c connection request (.ofDetails (Url.shownPath request.path) details) connection
  | replaced {endpoint : Endpoint} {body : Option Json} {invocation : Invocation} {failure : Failure}
    (reaches : Reaches request endpoint body) (call : endpoint.invocation? body = some (.accepted invocation))
    (replacement : c.replacement = some failure) :
    Course c connection request (.ofFailure (Url.shownPath request.path) failure) connection
  | ran {endpoint : Endpoint} {body : Option Json} {invocation : Invocation} {result : Except Failure Rows}
    {after : Connection} (reaches : Reaches request endpoint body)
    (call : endpoint.invocation? body = some (.accepted invocation)) (unreplaced : c.replacement = none)
    (ran : invocation.run c connection = (result, after)) :
    Course c connection request (.ofResult (Url.shownPath request.path) (result.map (success invocation))) after

section Readiness

open AnchorRegistry.Action

theorem databaseAnswers_ends (s : Session) :
    databaseAnswers.Ends s (fun _ => s.Keeps) fun _ => s.Keeps := by
  have counted := Session.keeps_count s .execute
  have ends : (inSession (execute fun _ => .ok ())).Ends s (fun _ t => s.Keeps t) fun _ t => s.Keeps t :=
    .inSession (.execute (F := fun _ t => s.Keeps t) (fun _ _ => counted) fun _ _ => counted)
      fun failure t u kept onward => kept.trans onward
  unfold Ends at ends ⊢
  unfold databaseAnswers
  cases run : inSession (execute fun _ => .ok ()) s with
  | mk result t =>
      rw [run] at ends
      rcases result with (_ | _ | _ | _ | _ | _) | _
      case error.service | error.unforeseen.os => exact ends.trans (Session.keeps_note t _)
      all_goals exact ends

theorem schemaPresent_ends (s : Session) :
    schemaPresent.Ends s (fun _ t => s.Keeps t) fun _ t => s.Keeps t := by
  have probe : Action.Ends (do
        let _ ← execute fun store => store.selectAnchors fun _ => true
        let _ ← execute fun store => store.selectAssets fun _ => true : Action Unit) s
      (fun _ t => s.Keeps t) fun _ t => s.Keeps t := by
    have counted := Session.keeps_count s .execute
    refine .bind (R := fun _ t => s.Keeps t) (.execute (fun _ _ => counted) fun _ _ => counted) ?_
    intro _ t kept
    have again := kept.trans (Session.keeps_count t .execute)
    refine .bind (R := fun _ t => s.Keeps t) (.execute (fun _ _ => again) fun _ _ => again) ?_
    intro _ u kept
    exact .pure kept
  have ends := probe.inSession (G := fun _ t => s.Keeps t) fun failure t u kept onward => kept.trans onward
  unfold Ends at ends ⊢
  unfold schemaPresent
  simp only
  generalize inSession _ s = outcome at ends ⊢
  obtain ⟨(_ | _ | _) | _, t⟩ := outcome
  case error.service => exact ends.trans (Session.keeps_note t _)
  all_goals exact ends

theorem readiness_ends (s : Session) : readiness.Ends s (fun _ t => s.Keeps t) fun _ t => s.Keeps t := by
  refine .bind (databaseAnswers_ends s) fun answers t kept => ?_
  split
  · refine .bind ((schemaPresent_ends t).mono (fun _ u onward => kept.trans onward)
      fun _ u onward => kept.trans onward) fun present u kept => ?_
    split
    · exact .pure kept
    · exact .log_bind (.pure (kept.trans (Session.keeps_note u _)))
  · exact .log_bind (.pure (kept.trans (Session.keeps_note t _)))

end Readiness

/-- What is sent has the status of the answer, unless a text in it has no encoding or there is no answer. -/
def Answer.status (answer : Answer) : Int :=
  match answer.response with
  | some response => if response.isSendable then response.status else 500
  | none => 500

theorem respond_status (service : Service) (c : Circumstances) (request : Request) :
    (respond service c request).response.status = (answer service c request).1.status := by
  unfold respond Answer.status
  simp only
  cases (answer service c request).1.response with
  | none => rfl
  | some response =>
      simp only
      split <;> rfl

theorem respond_database (service : Service) (c : Circumstances) (request : Request) :
    (respond service c request).database = (answer service c request).2.1 := by
  unfold respond
  simp only
  split
  · rfl
  · split <;> rfl

section Calls

variable {endpoint : Endpoint} {body : Option Json} {c : Circumstances}

/-- A call is answered by what stands in for the repository, then by the database that is not open, then by the
payload, and at last by the repository. -/
def serve (service : Service) (c : Circumstances) (path : Text) (checked : Payload.Checked Invocation) :
    Answer × Option Connection × List Log.Record :=
  match c.replacement, service.database, checked with
  | some _, database, .rejected details => (.ofDetails path details, database, [])
  | some failure, database, .accepted _ => (.ofFailure path failure, database, [])
  | none, none, _ => (.ofFailure path (.unforeseen (.runtime "Database not initialized")), none, [])
  | none, some connection, .rejected details => (.ofDetails path details, some connection, [])
  | none, some connection, .accepted invocation =>
    (.ofResult path ((invocation.run c connection).1.map (success invocation)),
      some (invocation.run c connection).2, (invocation.action.inSession (c.session connection)).2.log)

theorem runEndpoint_eq (service : Service) (path : Text) {checked : Payload.Checked Invocation}
    (call : endpoint.invocation? body = some checked) :
    runEndpoint service c path endpoint body = serve service c path checked := by
  have operation := Endpoint.operation_eq call
  cases endpoint with
  | health | ready => cases call
  | _ =>
      unfold runEndpoint serve
      simp only [operation]
      cases c.replacement with
      | some failure => cases checked <;> rfl
      | none =>
          cases service.database with
          | none => rfl
          | some connection =>
              cases checked with
              | rejected details => rfl
              | accepted invocation =>
                  simp only [Payload.Checked.map, Invocation.run, Action.inSession_map, Action.map_apply]
                  cases invocation.action.inSession (c.session connection) with
                  | mk result session => cases result <;> rfl

variable {invocation : Invocation} (origins : List Text) (connection : Connection) (path : Text)

theorem runEndpoint_rejected {details : List Payload.Detail}
    (call : endpoint.invocation? body = some (.rejected details)) :
    runEndpoint ⟨some connection, origins⟩ c path endpoint body =
      (.ofDetails path details, some connection, []) := by
  rw [runEndpoint_eq _ path call]
  unfold serve
  cases c.replacement <;> rfl

theorem runEndpoint_accepted (call : endpoint.invocation? body = some (.accepted invocation))
    (unreplaced : c.replacement = none) :
    runEndpoint ⟨some connection, origins⟩ c path endpoint body =
      (.ofResult path ((invocation.run c connection).1.map (success invocation)),
        some (invocation.run c connection).2, (invocation.action.inSession (c.session connection)).2.log) := by
  rw [runEndpoint_eq _ path call]
  unfold serve
  rw [unreplaced]

end Calls

/-- How a request is treated, whatever the database: it is answered at once, or its endpoint is, or the call of its
endpoint is served. -/
inductive Treated (service : Service) (c : Circumstances) (request : Request) :
    Answer × Option Connection × List Log.Record → Prop
  | astray {response : Response} (lost : ∀ endpoint, dispatch request.method request.path ≠ .found endpoint)
    (status : response.status = 404 ∨ response.status = 405 ∨ response.status = 307)
    (sendable : response.isSendable) : Treated service c request (⟨some response, []⟩, service.database, [])
  | unreadable {endpoint : Endpoint} {fault : BodyFault}
    (found : dispatch request.method request.path = .found endpoint) (takes : endpoint.takesBody)
    (unread : readBody (request.body.getD []) = .error fault) :
    Treated service c request (.ofBodyFault (Url.shownPath request.path) fault, service.database, [])
  | healthy (found : dispatch request.method request.path = .found .health) :
    Treated service c request (⟨some healthyResponse, []⟩, service.database, [])
  | readied (found : dispatch request.method request.path = .found .ready) :
    Treated service c request (runEndpoint service c (Url.shownPath request.path) .ready none)
  | served {endpoint : Endpoint} {body : Option Json} {checked : Payload.Checked Invocation}
    (reaches : Reaches request endpoint body) (call : endpoint.invocation? body = some checked) :
    Treated service c request (serve service c (Url.shownPath request.path) checked)

theorem answer_treated (service : Service) (c : Circumstances) (request : Request) :
    Treated service c request (answer service c request) := by
  cases found : dispatch request.method request.path with
  | notFound =>
      unfold answer
      simp only [found]
      exact .astray (by simp [found]) (.inl rfl) (by decide)
  | methodNotAllowed allowed =>
      have sendable : (plainDetail 405 "Method Not Allowed").isSendable := by decide
      unfold answer
      simp only [found]
      exact .astray (by simp [found]) (.inr (.inl rfl)) sendable
  | redirect target =>
      unfold answer
      simp only [found]
      exact .astray (by simp [found]) (.inr (.inr rfl)) rfl
  | found endpoint =>
      cases read : if endpoint.takesBody then readBody (request.body.getD []) else .ok none with
      | error fault =>
          unfold answer
          simp only [found, read]
          cases takes : endpoint.takesBody with
          | false =>
              rw [takes] at read
              cases read
          | true =>
              rw [takes] at read
              exact .unreadable found takes read
      | ok body =>
          have reaches : Reaches request endpoint body := ⟨found, read⟩
          cases call : endpoint.invocation? body with
          | some checked =>
              rw [reaches.answer_eq, runEndpoint_eq service _ call]
              exact .served reaches call
          | none =>
              rw [reaches.answer_eq]
              cases endpoint with
              | health => exact .healthy found
              | ready => exact .readied found
              | _ => cases call

/-- Every request on an opened database takes one of the courses. -/
theorem answer_course (origins : List Text) (c : Circumstances) (connection : Connection) (request : Request) :
    ∃ after, (answer ⟨some connection, origins⟩ c request).2.1 = some after ∧
      Course c connection request (answer ⟨some connection, origins⟩ c request).1 after := by
  have treated := answer_treated ⟨some connection, origins⟩ c request
  generalize answer ⟨some connection, origins⟩ c request = outcome at treated ⊢
  cases treated with
  | astray lost status sendable => exact ⟨connection, rfl, .astray lost status sendable⟩
  | unreadable found takes unread => exact ⟨connection, rfl, .unreadable found takes unread⟩
  | healthy found => exact ⟨connection, rfl, .healthy found⟩
  | readied found => exact ⟨_, rfl, .readied found (readiness_ends (c.session connection)).left.store⟩
  | @served endpoint body checked reaches call =>
      unfold serve
      cases replacement : c.replacement with
      | some failure =>
          cases checked with
          | rejected details => exact ⟨connection, rfl, .rejected reaches call⟩
          | accepted invocation => exact ⟨connection, rfl, .replaced reaches call replacement⟩
      | none =>
          cases checked with
          | rejected details => exact ⟨connection, rfl, .rejected reaches call⟩
          | accepted invocation => exact ⟨_, rfl, .ran reaches call replacement rfl⟩

end AnchorRegistry.Http
