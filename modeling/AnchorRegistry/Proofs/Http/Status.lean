import AnchorRegistry.Proofs.Http.Framing
import AnchorRegistry.Proofs.Identifier
import AnchorRegistry.Proofs.Lookup

/-! Which statuses callers meet. Each endpoint on anchors has a few statuses of its own, and on tables that are
there, with no fault, every failure is classified into one of them, with one exception: a text without an
encoding. Such a text passes the payloads and their checks; the store cannot bind it and an answer cannot hold
it, and in either case the request ends as an unforeseen one. `MeetsUnencodable` says exactly when. -/

namespace AnchorRegistry

open Repository
open Http (Circumstances)

namespace Http

/-- The two ways in which a request is answered: with one of the statuses, or as an unforeseen one because it
met a text without an encoding. -/
inductive Answered (unencodable : Prop) (statuses : List Int) : Int → Prop
  | listed {status : Int} (encodable : ¬unencodable) (member : status ∈ statuses) :
    Answered unencodable statuses status
  | unforeseen (met : unencodable) : Answered unencodable statuses 500

namespace Answer

theorem status_ofService {e : ServiceError} (code : e.cause.code.Storable) (message : e.cause.message.Storable)
    (path : Text) : (ofFailure path (.service e)).status = e.cause.httpStatus := by
  have sendable : Response.isSendable { status := e.cause.httpStatus, body := some e.response } :=
    e.storable_response.2 (.inr ⟨code, message⟩)
  exact status_of_isSendable sendable [errorRecord path e]

theorem status_refused {v : Violation} (tellable : v.message.Storable) (path : Text) (anchorId : Option Text)
    (now : Instant) : (ofFailure path (.refused v anchorId now)).status = 400 := by
  refine status_ofService ?_ ?_ path
  · exact Text.storable_ofString _
  · exact tellable

theorem status_notFound (path raw : Text) (context : ErrorContext) :
    (ofFailure path (.service ⟨.notFound "Anchor" raw, context⟩)).status = if raw.Storable then 404 else 500 := by
  have told : (ServiceError.response ⟨.notFound "Anchor" raw, context⟩).storable ↔ raw.Storable := by
    rw [ServiceError.storable_response]
    simp [Cause.isInternal, Cause.httpStatus, Cause.code, Cause.message]
  exact ite_congr (propext told) (fun _ => rfl) fun _ => rfl

theorem status_taken {account : Text} (storable : account.Storable) (path : Text) (now : Instant) :
    (ofFailure path (.taken account now)).status = 409 := by
  refine status_ofService ?_ ?_ path
  · exact Text.storable_ofString _
  · simp [Cause.message, storable]

end Answer

end Http

/-- The text is the identifier of one of the anchors. -/
def Store.Names (store : Store) (raw : Text) : Prop := ∃ anchor ∈ store.anchors, EntityId.parse? raw = some anchor.id

/-- A session in which nothing is planned to fail, on tables that are there and hold what they should. -/
structure Session.Sound (s : Session) : Prop where
  unfaulted : s.fault = none
  anchorTable : s.store.anchorTable = some s.store.anchors
  assetTable : s.store.assetTable = some s.store.assets
  legal : s.store.Legal
  uniqueAccounts : s.store.uniqueAccounts

namespace Repository

open Http

variable {s : Session} {failure : Failure} {raw : Text} (sound : s.Sound)

include sound

section Lookups

variable (fails : LookupFails raw s failure)

include fails

theorem LookupFails.status (path : Text) :
    (Answer.ofFailure path failure).status = if raw.Storable then 404 else 500 := by
  cases fails with
  | malformed unread => exact Answer.status_notFound path raw _
  | unknown read nothing => exact Answer.status_notFound path raw _
  | broken read met =>
      rw [lookingUp_unfaulted sound.unfaulted sound.anchorTable] at met
      cases met

theorem LookupFails.answered (path : Text) :
    Answered (¬raw.Storable) [200, 404] (Answer.ofFailure path failure).status := by
  rw [fails.status sound]
  by_cases storable : raw.Storable
  · rw [if_pos storable]
    exact .listed (not_not_intro storable) (by decide)
  · rw [if_neg storable]
    exact .unforeseen storable

end Lookups

theorem CreateFails.answered {p : Payload.NewAnchor} (fails : CreateFails p s failure) (path : Text) :
    Answered (p.violation = none ∧ ¬p.Encodable) [201, 400, 409]
      (Answer.ofFailure path failure).status := by
  have rejections {reason : Failure} (met : registering p s = .error reason) :
      ¬p.Encodable ∧ (∃ t, reason = .unforeseen (.unencodable t)) ∨ p.Encodable ∧ reason = .storage .integrity := by
    rw [registering, Session.attempt_unfaulted sound.unfaulted] at met
    rcases Store.insertAnchor_eq_error sound.anchorTable met with unencodable | ⟨storable, -, same⟩
    · obtain ⟨t, member, unstorable, same⟩ := Store.encodable_eq_error unencodable
      exact .inl ⟨fun encodable => unstorable (storable_anchorRow.2 encodable t member), t, same⟩
    · exact .inr ⟨storable_anchorRow.1 storable, same⟩
  cases fails with
  | refused found =>
      rw [Answer.status_refused (Validation.tellable_anchor _ _ _ _ found)]
      exact .listed (fun met => absurd (found.symm.trans met.1) (Option.some_ne_none _)) (by decide)
  | taken valid rejected =>
      rcases rejections rejected with ⟨-, t, same⟩ | ⟨encodable, -⟩
      · cases same
      · rw [Answer.status_taken ((Text.storable_strip _).2 encodable.1)]
        exact .listed (fun met => met.2 encodable) (by decide)
  | broken valid met other =>
      rcases rejections met with ⟨unstorable, t, rfl⟩ | ⟨-, same⟩
      · exact .unforeseen ⟨valid, unstorable⟩
      · exact absurd same other

theorem ListFails.elim (fails : ListFails s failure) : False := by
  cases fails with
  | broken met =>
      rw [readingAll, Session.attempt_unfaulted sound.unfaulted,
        Store.selectAnchors_eq_ok.2 ⟨_, sound.anchorTable, rfl⟩] at met
      cases met

theorem AccountFails.answered (fails : AccountFails raw s failure) (path : Text) :
    Answered (¬raw.Storable) [200, 404] (Answer.ofFailure path failure).status := by
  have unambiguous {found : List Anchor} (gave : lookingUpAccount raw.strip s = .ok found) :
      raw.Storable ∧ found.length ≤ 1 := by
    obtain ⟨rows, table, storable, same⟩ := Store.selectByAccount_eq_ok.1 (Session.eq_ok_of_attempt gave)
    refine ⟨(Text.storable_strip raw).1 storable, ?_⟩
    cases found with
    | nil => exact Nat.zero_le 1
    | cons first rest =>
        have member : first ∈ rows.filter fun a => a.accountReference = raw.strip := same ▸ List.mem_cons_self
        rw [List.mem_filter, decide_eq_true_eq] at member
        have keys := sound.legal.accounts sound.uniqueAccounts
        rw [Store.anchors_of_table table] at keys
        rw [same, ← member.2, filter_key Anchor.accountReference keys member.1, List.length_singleton]
  cases fails with
  | unknown nothing =>
      have storable := (unambiguous nothing).1
      have status := Answer.status_notFound path raw.strip { timestamp := s.now, accountReference := some raw.strip }
      rw [if_pos ((Text.storable_strip raw).2 storable)] at status
      rw [Failure.missingAccount, status]
      exact .listed (not_not_intro storable) (by decide)
  | ambiguous several =>
      have short := (unambiguous several).2
      rw [List.length_cons, List.length_cons] at short
      omega
  | broken met =>
      rw [lookingUpAccount, Session.attempt_unfaulted sound.unfaulted] at met
      obtain ⟨unstorable, rfl⟩ := Store.selectByAccount_eq_error sound.anchorTable met
      exact .unforeseen fun storable => unstorable ((Text.storable_strip raw).2 storable)

theorem UpdateFails.answered {p : Payload.MetricsUpdate} (fails : UpdateFails raw p s failure) (path : Text) :
    Answered (p.violation = none ∧ ¬raw.Storable) [200, 400, 404] (Answer.ofFailure path failure).status := by
  cases fails with
  | refused found =>
      rw [Answer.status_refused (p.tellable_changes _ found)]
      exact .listed (fun met => absurd (found.symm.trans met.1) (Option.some_ne_none _)) (by decide)
  | lookup valid fails =>
      rw [fails.status sound]
      by_cases storable : raw.Storable
      · rw [if_pos storable]
        exact .listed (fun met => met.2 storable) (by decide)
      · rw [if_neg storable]
        exact .unforeseen ⟨valid, storable⟩
  | inconsistent valid old found =>
      rw [Answer.status_refused (Validation.tellable_transactionTotals _ _ _ _ found)]
      exact .listed (fun met => met.2 (EntityId.storable_of_parse? old.mem.2)) (by decide)
  | broken valid old consistent met =>
      rw [merging, Session.attempt_unfaulted sound.unfaulted,
        Store.updateAnchor_eq_ok.2 ⟨_, sound.anchorTable, rfl⟩] at met
      cases met

theorem AssetFails.answered {p : Payload.NewAsset} (fails : AssetFails raw p s failure) (path : Text) :
    Answered (¬raw.Storable ∨ s.store.Names raw ∧ p.violation = none ∧ ¬p.Encodable) [201, 400, 404]
      (Answer.ofFailure path failure).status := by
  have rejections {owner : EntityId} {reason : Failure}
      (met : adding (assetRow p owner s.freshId s.now) s = .error reason) :
      ¬p.Encodable ∧ (∃ t, reason = .unforeseen (.unencodable t)) ∨ p.Encodable ∧ reason = .storage .integrity := by
    rw [adding, Session.attempt_unfaulted sound.unfaulted] at met
    rcases Store.insertAsset_eq_error sound.assetTable sound.anchorTable met with unencodable | ⟨storable, -, same⟩
    · obtain ⟨t, member, unstorable, same⟩ := Store.encodable_eq_error unencodable
      exact .inl ⟨fun encodable => unstorable (storable_assetRow.2 encodable t member), t, same⟩
    · exact .inr ⟨storable_assetRow.1 storable, same⟩
  cases fails with
  | lookup fails =>
      rw [fails.status sound]
      by_cases storable : raw.Storable
      · rw [if_pos storable]
        refine .listed ?_ (by decide)
        rintro (unstorable | ⟨⟨anchor, member, read⟩, -⟩)
        · exact unstorable storable
        · exact fails.unnamed sound.unfaulted sound.legal anchor member read
      · rw [if_neg storable]
        exact .unforeseen (.inl storable)
  | refused old found =>
      rw [Answer.status_refused (Validation.tellable_asset _ _ _ _ _ found)]
      refine .listed ?_ (by decide)
      rintro (unstorable | ⟨-, valid, -⟩)
      · exact unstorable (EntityId.storable_of_parse? old.mem.2)
      · exact absurd (found.symm.trans valid) (Option.some_ne_none _)
  | rejected old valid met =>
      have storable := EntityId.storable_of_parse? old.mem.2
      rcases rejections met with ⟨-, t, same⟩ | ⟨encodable, -⟩
      · cases same
      · rw [Failure.missing, Answer.status_notFound, if_pos storable]
        refine .listed ?_ (by decide)
        rintro (unstorable | ⟨-, -, unencodable⟩)
        · exact unstorable storable
        · exact unencodable encodable
  | broken old valid met other =>
      rcases rejections met with ⟨unencodable, t, rfl⟩ | ⟨-, same⟩
      · exact .unforeseen (.inr ⟨⟨_, old.mem⟩, valid, unencodable⟩)
      · exact absurd same other

theorem ListingFails.answered (fails : ListingFails raw s failure) (path : Text) :
    Answered (¬raw.Storable) [200, 404] (Answer.ofFailure path failure).status := by
  cases fails with
  | lookup fails => exact fails.answered sound path
  | broken old met =>
      have unfaulted : (s.count .execute).fault = none := sound.unfaulted
      rw [listing, Session.attempt_unfaulted unfaulted,
        Store.selectAssets_eq_ok.2 ⟨_, sound.assetTable, rfl⟩] at met
      cases met

namespace Invocation

/-- The call meets a text without an encoding: one that it looks for, or one that it would write after its
checks have passed. -/
def MeetsUnencodable (store : Store) : Invocation → Prop
  | createAnchor p => p.violation = none ∧ ¬p.Encodable
  | listAnchors => False
  | getAnchorById raw | getAnchorByAccount raw | listAssetsForAnchor raw => ¬raw.Storable
  | updateAnchorMetrics raw p => p.violation = none ∧ ¬raw.Storable
  | createAsset raw p => ¬raw.Storable ∨ store.Names raw ∧ p.violation = none ∧ ¬p.Encodable

omit sound in
theorem Returns.encodable {invocation : Invocation} {rows : Rows} {after : Store}
    (returns : Returns s invocation rows after) : ¬invocation.MeetsUnencodable s.store := by
  cases returns with
  | createAnchor valid written =>
      have joined := Store.anchorJoined (Session.eq_ok_of_attempt written)
      intro met
      exact met.2 (storable_anchorRow.1 joined.storable)
  | listAnchors gave => exact id
  | getAnchorById found => exact not_not_intro (EntityId.storable_of_parse? found.mem.2)
  | getAnchorByAccount gave =>
      obtain ⟨rows, table, storable, -⟩ := Store.selectByAccount_eq_ok.1 (Session.eq_ok_of_attempt gave)
      exact not_not_intro ((Text.storable_strip _).1 storable)
  | updateAnchorMetrics valid old consistent written =>
      intro met
      exact met.2 (EntityId.storable_of_parse? old.mem.2)
  | createAsset valid old written =>
      have joined := Store.assetJoined (Session.eq_ok_of_attempt written)
      rintro (unstorable | ⟨-, -, unencodable⟩)
      · exact unstorable (EntityId.storable_of_parse? old.mem.2)
      · exact unencodable (storable_assetRow.1 joined.storable)
  | listAssetsForAnchor old gave => exact not_not_intro (EntityId.storable_of_parse? old.mem.2)

end Invocation

end Repository

namespace Http

/-- The statuses that an endpoint on anchors is specified to answer with. -/
def Endpoint.statuses? : Endpoint → Option (List Int)
  | health | ready => none
  | listAnchors => some [200]
  | createAnchor => some [201, 400, 409]
  | anchorByAccount _ | anchorById _ | listAssets _ => some [200, 404]
  | updateMetrics _ => some [200, 400, 404]
  | createAsset _ => some [201, 400, 404]

/-- The call that a request comes to meets a text without an encoding. -/
def MeetsUnencodable (request : Request) (endpoint : Endpoint) (store : Store) : Prop :=
  ∃ body invocation, Reaches request endpoint body ∧ endpoint.invocation? body = some (.accepted invocation) ∧
    invocation.MeetsUnencodable store

section Answers

variable {request : Request} {endpoint : Endpoint} {body : Option Json} {invocation : Invocation} {statuses : List Int}
  {s : Session}

theorem Reaches.unique {other : Option Json} (reaches : Reaches request endpoint body)
    (again : Reaches request endpoint other) : body = other :=
  Except.ok.inj (reaches.read.symm.trans again.read)

theorem Reaches.meetsUnencodable_iff (reaches : Reaches request endpoint body)
    (call : endpoint.invocation? body = some (.accepted invocation)) {store : Store} :
    MeetsUnencodable request endpoint store ↔ invocation.MeetsUnencodable store := by
  constructor
  · rintro ⟨other, invocation', again, call', met⟩
    rw [← reaches.unique again, call] at call'
    cases call'
    exact met
  · intro met
    exact ⟨body, invocation, reaches, call, met⟩

/-- Only endpoints that take a body reject one, and all of them list 400 for that. -/
theorem Endpoint.mem_statuses_of_takesBody (listed : endpoint.statuses? = some statuses) (takes : endpoint.takesBody) :
    400 ∈ statuses := by
  cases endpoint <;> cases takes <;> cases listed <;> decide

theorem Endpoint.takesBody_of_rejected {details : List Payload.Detail}
    (call : endpoint.invocation? body = some (.rejected details)) : endpoint.takesBody := by
  cases endpoint <;> first | rfl | cases call

theorem Endpoint.tellable_invocation? {checked : Payload.Checked Invocation}
    (call : endpoint.invocation? body = some checked) : checked.Tellable := by
  cases endpoint with
  | health | ready => cases call
  | createAnchor =>
      cases call
      exact (tellable_readPayload Payload.NewAnchor.tellable_ofJson body).map _
  | updateMetrics raw =>
      cases call
      exact (tellable_readPayload Payload.MetricsUpdate.tellable_ofJson body).map _
  | createAsset raw =>
      cases call
      exact (tellable_readPayload Payload.NewAsset.tellable_ofJson body).map _
  | _ =>
      cases call
      exact Payload.Checked.tellable_accepted _

theorem answered_returns (listed : endpoint.statuses? = some statuses)
    (call : endpoint.invocation? body = some (.accepted invocation)) : successStatus invocation ∈ statuses := by
  cases endpoint with
  | health | ready => cases listed
  | createAnchor | updateMetrics | createAsset =>
      obtain ⟨p, -, rfl⟩ := Payload.Checked.map_eq_accepted.1 (Option.some.inj call)
      cases listed
      simp [successStatus]
  | _ =>
      cases call
      cases listed
      simp [successStatus]

theorem answered_fails (sound : s.Sound) (listed : endpoint.statuses? = some statuses)
    (call : endpoint.invocation? body = some (.accepted invocation)) {failure : Failure}
    (fails : invocation.Fails s failure) (path : Text) :
    Answered (invocation.MeetsUnencodable s.store) statuses (Answer.ofFailure path failure).status := by
  cases endpoint with
  | health | ready => cases listed
  | createAnchor =>
      obtain ⟨p, -, rfl⟩ := Payload.Checked.map_eq_accepted.1 (Option.some.inj call)
      cases listed
      exact CreateFails.answered sound fails path
  | updateMetrics raw =>
      obtain ⟨p, -, rfl⟩ := Payload.Checked.map_eq_accepted.1 (Option.some.inj call)
      cases listed
      exact UpdateFails.answered sound fails path
  | createAsset raw =>
      obtain ⟨p, -, rfl⟩ := Payload.Checked.map_eq_accepted.1 (Option.some.inj call)
      cases listed
      exact AssetFails.answered sound fails path
  | listAnchors =>
      cases call
      exact (ListFails.elim sound fails).elim
  | anchorByAccount raw =>
      cases call
      cases listed
      exact AccountFails.answered sound fails path
  | anchorById raw =>
      cases call
      cases listed
      exact LookupFails.answered sound fails path
  | listAssets raw =>
      cases call
      cases listed
      exact ListingFails.answered sound fails path

end Answers

/-- What a caller is told of a body that is no JSON. -/
def BodyFault.response : BodyFault → Response
  | unreadable => plainDetail 400 "There was an error parsing the body"
  | malformed position => invalidPayload [⟨["body", Text.ofNat position], .malformed⟩]

theorem BodyFault.isSendable_response (fault : BodyFault) : fault.response.isSendable := by
  cases fault with
  | unreadable => decide
  | malformed position =>
      refine isSendable_invalidPayload fun detail member => ?_
      rw [List.mem_singleton] at member
      rw [member]
      exact List.forall_mem_cons.2 ⟨Text.storable_ofString _, List.forall_mem_singleton.2 (Text.storable_ofNat _)⟩

namespace Answer

theorem response_ofBodyFault (path : Text) (fault : BodyFault) :
    (ofBodyFault path fault).response = some fault.response := by
  cases fault <;> rfl

theorem status_ofDetails {details : List Payload.Detail}
    (paths : ∀ detail ∈ details, ∀ step ∈ detail.path, step.Storable) (path : Text) :
    (ofDetails path details).status = 400 := status_of_isSendable (isSendable_invalidPayload paths) _

theorem status_ofBodyFault (path : Text) (fault : BodyFault) : (ofBodyFault path fault).status = 400 := by
  unfold status
  rw [response_ofBodyFault]
  simp only
  rw [if_pos fault.isSendable_response]
  cases fault <;> rfl

end Answer

theorem Circumstances.sound_session {c : Circumstances} (unfaulted : c.fault = none) {start : Connection}
    (created : start.store.Created) (steps : List Step) : (c.session (run start steps)).Sound := by
  obtain ⟨anchorTable, assetTable⟩ := run_tables created steps
  exact ⟨unfaulted, anchorTable, assetTable, (created.reachable steps).legal, created.uniqueAccounts steps⟩

/-- Every request to an endpoint on anchors is answered with one of the endpoint's statuses, unless it meets a
text without an encoding. -/
theorem respond_answered {start : Connection} (created : start.store.Created) (steps : List Step) {c : Circumstances}
    (unfaulted : c.fault = none) (unreplaced : c.replacement = none) (origins : List Text) {request : Request}
    {endpoint : Endpoint} {statuses : List Int} (found : dispatch request.method request.path = .found endpoint)
    (listed : endpoint.statuses? = some statuses) :
    Answered (MeetsUnencodable request endpoint (run start steps).store) statuses
      (respond ⟨some (run start steps), origins⟩ c request).response.status := by
  have sound := Circumstances.sound_session unfaulted created steps
  obtain ⟨after, -, course⟩ := answer_course origins c (run start steps) request
  have same {other : Endpoint} (found' : dispatch request.method request.path = .found other) : other = endpoint :=
    Dispatch.found.inj (found'.symm.trans found)
  rw [respond_status]
  generalize (answer ⟨some (run start steps), origins⟩ c request).1 = answered at course
  cases course with
  | astray lost => exact absurd found (lost endpoint)
  | unreadable found' takes unread =>
      obtain rfl := same found'
      rw [Answer.status_ofBodyFault]
      refine .listed ?_ (Endpoint.mem_statuses_of_takesBody listed takes)
      rintro ⟨body, invocation, ⟨-, read⟩, -⟩
      rw [if_pos takes, unread] at read
      cases read
  | healthy found' | readied found' =>
      obtain rfl := same found'
      cases listed
  | rejected reaches call =>
      obtain rfl := same reaches.found
      rw [Answer.status_ofDetails (Endpoint.tellable_invocation? call _ rfl)]
      refine .listed ?_ (Endpoint.mem_statuses_of_takesBody listed (Endpoint.takesBody_of_rejected call))
      rintro ⟨body, invocation, again, call', -⟩
      rw [← reaches.unique again, call] at call'
      cases call'
  | replaced reaches call replacement =>
      rw [unreplaced] at replacement
      cases replacement
  | @ran endpoint body invocation result after reaches call _ ran =>
      obtain rfl := same reaches.found
      rw [reaches.meetsUnencodable_iff call]
      cases result with
      | ok rows =>
          have returns := Invocation.run_ok ran
          show Answered _ _ (Answer.ofResult _ (.ok (success invocation rows))).status
          rw [returns.status (created.reachable steps).settled]
          exact .listed returns.encodable (answered_returns listed call)
      | error failure => exact answered_fails sound listed call (Invocation.run_error ran).2 _

theorem Endpoint.not_mem_statuses {endpoint : Endpoint} {statuses : List Int}
    (listed : endpoint.statuses? = some statuses) : 500 ∉ statuses := by
  cases endpoint <;> cases listed <;> decide

/-- On correctly created tables and without a fault, a request to an endpoint on anchors ends in a server error
exactly when it meets a text without an encoding, and otherwise with a status of the endpoint. -/
theorem respond_status_iff {start : Connection} (created : start.store.Created) (steps : List Step) {c : Circumstances}
    (unfaulted : c.fault = none) (unreplaced : c.replacement = none) (origins : List Text) {request : Request}
    {endpoint : Endpoint} {statuses : List Int} (found : dispatch request.method request.path = .found endpoint)
    (listed : endpoint.statuses? = some statuses) :
    ((respond ⟨some (run start steps), origins⟩ c request).response.status = 500 ↔
        MeetsUnencodable request endpoint (run start steps).store) ∧
      ((respond ⟨some (run start steps), origins⟩ c request).response.status ≠ 500 →
        (respond ⟨some (run start steps), origins⟩ c request).response.status ∈ statuses) := by
  have answered := respond_answered created steps unfaulted unreplaced origins found listed
  have foreign := Endpoint.not_mem_statuses listed
  generalize (respond ⟨some (run start steps), origins⟩ c request).response.status = status at answered ⊢
  cases answered with
  | listed encodable member =>
      refine ⟨⟨?_, fun met => absurd met encodable⟩, fun _ => member⟩
      rintro rfl
      exact absurd member foreign
  | unforeseen met => exact ⟨iff_of_true rfl met, fun other => absurd rfl other⟩

end Http

namespace Sample

/-- A registration under a lone surrogate, as a payload and as a request. -/
def surrogateProfile : Payload.NewAnchor where
  accountReference := [⟨0xD800, by decide⟩]
  name := "Acme"
  homeDomain := .absent
  description := .absent

def surrogatePost : Http.Request where
  method := "POST"
  site := "http://localhost"
  path := "/anchors"
  body := some "\x7b\"accountReference\":\"\\ud800\",\"name\":\"Acme\"\x7d"

theorem dispatch_surrogatePost : Http.dispatch surrogatePost.method surrogatePost.path = .found .createAnchor := by
  decide +kernel

/-- The body spells the surrogate with an escape, and the payload that is read from it has it. -/
theorem reaches_surrogatePost : ∃ body, Http.Reaches surrogatePost .createAnchor body ∧
    Http.Endpoint.createAnchor.invocation? body = some (.accepted (.createAnchor surrogateProfile)) := by
  have accepted : (Http.readBody (surrogatePost.body.getD [])).toOption.map
      (Http.readPayload Payload.NewAnchor.ofJson) = some (.accepted surrogateProfile) := by
    decide +kernel
  cases read : Http.readBody (surrogatePost.body.getD []) with
  | error fault =>
      rw [read] at accepted
      cases accepted
  | ok body =>
      rw [read] at accepted
      exact ⟨body, ⟨dispatch_surrogatePost, (if_pos rfl).trans read⟩,
        congrArg (Option.map (Payload.Checked.map Invocation.createAnchor)) accepted⟩

end Sample

/-- The checks of a registration let a lone surrogate pass, and it ends in a server error. -/
theorem Http.respond_status_surrogate :
    dispatch Sample.surrogatePost.method Sample.surrogatePost.path = .found .createAnchor ∧
      (respond ⟨some (run Sample.start []), []⟩ Sample.circumstances Sample.surrogatePost).response.status = 500 := by
  have created : Sample.start.store.Created := .directly
  have found := Sample.dispatch_surrogatePost
  refine ⟨found, (respond_status_iff created [] rfl rfl [] found rfl).1.2 ?_⟩
  obtain ⟨body, reaches, call⟩ := Sample.reaches_surrogatePost
  have met : (Invocation.createAnchor Sample.surrogateProfile).MeetsUnencodable Sample.start.store := by
    refine ⟨by decide +kernel, fun encodable => ?_⟩
    exact absurd encodable.1 (by decide +kernel)
  exact ⟨body, _, reaches, call, met⟩

end AnchorRegistry
