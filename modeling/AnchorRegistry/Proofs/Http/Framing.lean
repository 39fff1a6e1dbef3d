import AnchorRegistry.Proofs.Http.Sendable
import AnchorRegistry.Proofs.Legal
import AnchorRegistry.Proofs.Metrics
import AnchorRegistry.Proofs.Payload
import AnchorRegistry.Proofs.Settled

/-! Requests write all or nothing. Three endpoints write, and each says so by a status that no failure has; a
write that was made is always told, because the row that it returns can be sent. So the status that is sent
decides: with that status one row was added, or one anchor changed in what its payload has keys for, and with
every other status both tables are as they were. -/

namespace AnchorRegistry

open Repository (Invocation Rows updatedRow)
open Http (Circumstances)

/-- The second row is the first but for its last write and the metrics that the object has a key for. -/
structure Anchor.UpdatedBy (members : List (Text × Json)) (a b : Anchor) : Prop where
  remeasured : a.Remeasured b
  kept : ∀ metric, Payload.effective? (.ofMetric metric) members = none →
    b.metrics.value? metric = a.metrics.value? metric

theorem Anchor.Settled.updatedBy {a : Anchor} (settled : a.Settled) {json : Json} {p : Payload.MetricsUpdate}
    (read : Payload.MetricsUpdate.ofJson json = .accepted p) (now : Instant) :
    ∃ members, json = .object members ∧ a.UpdatedBy members (updatedRow a p now).stored := by
  obtain ⟨members, object, supplied⟩ := Payload.MetricsUpdate.exists_members_of_ofJson read
  refine ⟨members, object, settled.remeasured p now, fun metric absent => ?_⟩
  have untouched : p.supplies metric = false := by
    rw [supplied, absent]
    rfl
  rw [settled.value?_updatedRow, Payload.MetricsUpdate.value?_entry_of_not_supplies untouched]
  rfl

/-- Only the anchor with the identifier of the row is replaced. -/
theorem Store.map_replaced_append (row : Anchor) {front back : List Anchor} {anchor : Anchor}
    (ids : ((front ++ anchor :: back).map Anchor.id).Nodup) (same : row.id = anchor.id) :
    (front ++ anchor :: back).map (fun a => if a.id = row.id then row.stored else a) =
      front ++ row.stored :: back := by
  rw [List.map_append, List.map_cons, List.nodup_append, List.nodup_cons] at ids
  obtain ⟨-, ⟨after, -⟩, before⟩ := ids
  have others {rows : List Anchor} (other : ∀ a ∈ rows, a.id ≠ anchor.id) :
      rows.map (fun a => if a.id = anchor.id then row.stored else a) = rows := by
    refine (List.map_congr_left fun a member => ?_).trans (List.map_id rows)
    exact if_neg (other a member)
  rw [same, List.map_append, List.map_cons, if_pos rfl, others, others]
  · intro a member found
    exact after (found ▸ List.mem_map_of_mem member)
  · intro a member
    exact before _ (List.mem_map_of_mem member) _ List.mem_cons_self

namespace Http

/-- The status that says that an endpoint wrote. -/
def Endpoint.writeStatus? : Endpoint → Option Int
  | createAnchor | createAsset _ => some 201
  | updateMetrics _ => some 200
  | _ => none

theorem Endpoint.writeStatus_lt {endpoint : Endpoint} {status : Int}
    (wrote : endpoint.writeStatus? = some status) : status < 400 := by
  cases endpoint <;> cases wrote <;> decide

/-- What an endpoint writes for a body, from one store to another. -/
inductive Endpoint.Writes (body : Option Json) (before : Store) : Endpoint → Store → Prop
  | anchorAdded {rows : List Anchor} (row : Anchor) (table : before.anchorTable = some rows) :
    Writes body before .createAnchor { before with anchorTable := some (rows ++ [row]) }
  | metricsMerged {raw : Text} {members : List (Text × Json)} {front back : List Anchor} {anchor row : Anchor}
    (given : body = some (.object members)) (addressed : EntityId.parse? raw = some anchor.id)
    (table : before.anchorTable = some (front ++ anchor :: back)) (updated : anchor.UpdatedBy members row) :
    Writes body before (.updateMetrics raw) { before with anchorTable := some (front ++ row :: back) }
  | assetAdded {raw : Text} {rows : List Asset} {row : Asset} (addressed : EntityId.parse? raw = some row.anchorId)
    (table : before.assetTable = some rows) :
    Writes body before (.createAsset raw) { before with assetTable := some (rows ++ [row]) }

/-- What a request may have done to a store, by the status that was sent for it: the write of its endpoint if
the status says so, and nothing otherwise. -/
structure Framed (request : Request) (status : Int) (before after : Store) : Prop where
  wrote : ∀ endpoint, dispatch request.method request.path = .found endpoint →
    endpoint.writeStatus? = some status →
      ∃ body, readBody (request.body.getD []) = .ok body ∧ endpoint.Writes body before after
  kept : (∀ endpoint, dispatch request.method request.path = .found endpoint →
      endpoint.writeStatus? ≠ some status) → after = before

namespace Framed

variable {request : Request} {endpoint : Endpoint} {status : Int} {before : Store}

theorem of_refused (refused : 400 ≤ status) : Framed request status before before where
  wrote _ _ said := absurd refused (Int.not_le.2 (Endpoint.writeStatus_lt said))
  kept _ := rfl

theorem of_read (found : dispatch request.method request.path = .found endpoint)
    (reads : endpoint.writeStatus? = none) : Framed request status before before where
  wrote other found' said := by
    rw [found] at found'
    cases found'
    rw [reads] at said
    cases said
  kept _ := rfl

theorem of_astray (lost : ∀ endpoint, dispatch request.method request.path ≠ .found endpoint) :
    Framed request status before before where
  wrote endpoint found := absurd found (lost endpoint)
  kept _ := rfl

end Framed

namespace Answer

theorem status_of_isSendable {response : Response} (sendable : response.isSendable) (log : List Log.Record) :
    status ⟨some response, log⟩ = response.status := if_pos sendable

/-- What is sent says what the answer says, or 500. -/
theorem status_cases (response : Response) (log : List Log.Record) :
    status ⟨some response, log⟩ = response.status ∨ status ⟨some response, log⟩ = 500 := by
  unfold status
  simp only
  split
  · exact .inl rfl
  · exact .inr rfl

theorem refuses_of_response {response : Response} {log : List Log.Record} (refuses : 400 ≤ response.status) :
    400 ≤ status ⟨some response, log⟩ := by
  rcases status_cases response log with same | unsent
  · rw [same]
    exact refuses
  · rw [unsent]
    decide

theorem refuses_ofDetails (path : Text) (details : List Payload.Detail) : 400 ≤ (ofDetails path details).status :=
  refuses_of_response (Int.le_refl 400)

theorem refuses_ofBodyFault (path : Text) (fault : BodyFault) : 400 ≤ (ofBodyFault path fault).status := by
  cases fault with
  | unreadable => exact refuses_of_response (Int.le_refl 400)
  | malformed position => exact refuses_ofDetails path _

theorem refuses_ofFailure {failure : Failure} (refuses : failure.Refuses) (path : Text) :
    400 ≤ (ofFailure path failure).status := by
  cases failure with
  | service e => exact refuses_of_response refuses
  | storage fault | unforeseen reason => exact (by decide : (400 : Int) ≤ 500)

end Answer

end Http

namespace Repository.Invocation

variable {s : Session} {invocation : Invocation} {rows : Rows} {after : Store}

/-- What a call returns can be sent. -/
theorem Returns.storable (returns : Returns s invocation rows after) (settled : s.store.Settled) :
    (Http.wireRows rows).storable := by
  cases returns with
  | createAnchor valid written =>
      have joined := Store.anchorJoined (Session.eq_ok_of_attempt written)
      exact Http.storable_wireAnchor joined.storable
  | listAnchors gave =>
      obtain ⟨stored, table, rfl⟩ := Store.selectAnchors_eq_ok.1 (Session.eq_ok_of_attempt gave)
      apply Json.storable_array_map.2
      intro row sorted
      have member := List.mem_of_mem_filter (List.mem_mergeSort.1 sorted)
      rw [← Store.anchors_of_table table] at member
      exact Http.storable_wireAnchor (settled.anchors row member).storable
  | getAnchorById found => exact Http.storable_wireAnchor (settled.anchors _ found.mem.1).storable
  | getAnchorByAccount gave =>
      obtain ⟨stored, table, -, same⟩ := Store.selectByAccount_eq_ok.1 (Session.eq_ok_of_attempt gave)
      have member := List.mem_of_mem_filter (same ▸ List.mem_singleton_self _)
      rw [← Store.anchors_of_table table] at member
      exact Http.storable_wireAnchor (settled.anchors _ member).storable
  | updateAnchorMetrics valid old consistent written =>
      exact Http.storable_wireAnchor (settled.anchors _ old.mem.1).storable
  | createAsset valid old written =>
      have joined := Store.assetJoined (Session.eq_ok_of_attempt written)
      exact Http.storable_wireAsset joined.storable
  | listAssetsForAnchor old gave =>
      obtain ⟨stored, table, rfl⟩ := Store.selectAssets_eq_ok.1 (Session.eq_ok_of_attempt gave)
      apply Json.storable_array_map.2
      intro row sorted
      have member := List.mem_of_mem_filter (List.mem_mergeSort.1 sorted)
      rw [← Store.assets_of_table table] at member
      exact Http.storable_wireAsset (settled.assets row member).storable

/-- The status of a call that returned is sent. -/
theorem Returns.status (returns : Returns s invocation rows after) (settled : s.store.Settled) (path : Text) :
    (Http.Answer.ofResult path (.ok (Http.success invocation rows))).status = Http.successStatus invocation := by
  have sendable : (Http.success invocation rows).isSendable := returns.storable settled
  exact Http.Answer.status_of_isSendable sendable []

end Repository.Invocation

namespace Http

/-- A call that returned wrote what its endpoint writes, and the endpoints that only read changed nothing. -/
theorem Framed.of_returns {request : Request} {endpoint : Endpoint} {body : Option Json} {invocation : Invocation}
    {s : Session} {rows : Rows} {after : Store} (legal : s.store.Legal) (settled : s.store.Settled)
    (reaches : Reaches request endpoint body) (call : endpoint.invocation? body = some (.accepted invocation))
    (returns : Invocation.Returns s invocation rows after) :
    Framed request (successStatus invocation) s.store after := by
  obtain ⟨found, read⟩ := reaches
  -- Where the endpoint writes, its one write is the change, whatever else may be asked of the status.
  have of_write (said : endpoint.writeStatus? = some (successStatus invocation)) (takes : endpoint.takesBody)
      (writes : endpoint.Writes body s.store after) :
      Framed request (successStatus invocation) s.store after := by
    rw [if_pos takes] at read
    refine ⟨fun other found' _ => ?_, fun never => absurd said (never endpoint found)⟩
    rw [found] at found'
    cases found'
    exact ⟨body, read, writes⟩
  cases endpoint with
  | createAnchor =>
      obtain ⟨p, -, rfl⟩ := Payload.Checked.map_eq_accepted.1 (Option.some.inj call)
      cases returns with
      | createAnchor valid written =>
          obtain ⟨stored, table, -, -, rfl⟩ := Store.insertAnchor_eq_ok.1 (Session.eq_ok_of_attempt written)
          exact of_write rfl rfl (.anchorAdded _ table)
  | updateMetrics raw =>
      obtain ⟨p, accepted, rfl⟩ := Payload.Checked.map_eq_accepted.1 (Option.some.inj call)
      obtain ⟨json, rfl, ofJson⟩ := readPayload_eq_accepted.1 accepted
      cases returns with
      | updateAnchorMetrics valid old consistent written =>
          obtain ⟨member, addressed⟩ := old.mem
          obtain ⟨stored, table, rfl⟩ := Store.updateAnchor_eq_ok.1 (Session.eq_ok_of_attempt written)
          obtain ⟨members, rfl, updated⟩ := (settled.anchors _ member).updatedBy ofJson s.now
          rw [Store.anchors_of_table table] at member
          obtain ⟨front, back, rfl⟩ := List.append_of_mem member
          have ids := legal.anchorIds
          rw [Store.anchors_of_table table] at ids
          apply of_write rfl rfl
          rw [Store.map_replaced_append (updatedRow _ p s.now) ids rfl]
          exact .metricsMerged rfl addressed table updated
  | createAsset raw =>
      obtain ⟨p, -, rfl⟩ := Payload.Checked.map_eq_accepted.1 (Option.some.inj call)
      cases returns with
      | createAsset valid old written =>
          obtain ⟨stored, owners, table, -, -, -, rfl⟩ :=
            Store.insertAsset_eq_ok.1 (Session.eq_ok_of_attempt written)
          exact of_write rfl rfl (.assetAdded old.mem.2 table)
  | health | ready => cases call
  | listAnchors | anchorByAccount | anchorById | listAssets =>
      cases call
      cases returns
      exact .of_read found rfl

/-- Whatever a request asks for and whatever fault it meets, the tables are as the sent status says: one row
was added, or one anchor was changed in what its payload has keys for, or nothing was written. -/
theorem respond_frames {connection : Connection} (reachable : Reachable connection) {c : Circumstances}
    (fault : ∀ planned ∈ c.fault, planned.failure.Refuses) (replacement : ∀ failure ∈ c.replacement, failure.Refuses)
    (origins : List Text) (request : Request) :
    ∃ after, (respond ⟨some connection, origins⟩ c request).database = some after ∧
      Framed request (respond ⟨some connection, origins⟩ c request).response.status connection.store after.store := by
  obtain ⟨after, database, course⟩ := answer_course origins c connection request
  refine ⟨after, (respond_database _ c request).trans database, ?_⟩
  rw [respond_status]
  generalize (answer ⟨some connection, origins⟩ c request).1 = answered at course
  cases course with
  | astray lost status sendable => exact .of_astray lost
  | unreadable found takes unread => exact .of_refused (Answer.refuses_ofBodyFault _ _)
  | healthy found => exact .of_read found rfl
  | readied found kept =>
      rw [kept]
      exact .of_read found rfl
  | rejected reaches call => exact .of_refused (Answer.refuses_ofDetails _ _)
  | replaced reaches call given => exact .of_refused (Answer.refuses_ofFailure (replacement _ given) _)
  | @ran endpoint body invocation result after reaches call unreplaced ran =>
      cases result with
      | ok rows =>
          have returns := Invocation.run_ok ran
          show Framed request (Answer.ofResult _ (.ok (success invocation rows))).status _ _
          rw [returns.status reachable.settled]
          exact .of_returns reachable.legal reachable.settled reaches call returns
      | error failure =>
          obtain ⟨kept, fails⟩ := Invocation.run_error ran
          have covered : (c.session connection).FaultRefuses := fault
          rw [kept]
          exact .of_refused (Answer.refuses_ofFailure (fails.classified.refuses covered) _)

end Http

namespace Sample

/-- A registration as a request. -/
def post : Http.Request where
  method := "POST"
  site := "http://localhost"
  path := "/anchors"
  body := some "\x7b\"accountReference\":\"GACME\",\"name\":\"Acme\"\x7d"

/-- Circumstances in which the first commit fails. -/
def broken : Circumstances := { circumstances with fault := some ⟨.commit, 1, .unforeseen (.os "disk full")⟩ }

end Sample

/-- A registration whose commit fails leaves the tables as they were created. -/
theorem Http.respond_frames_broken : Reachable Sample.start ∧
    ∃ after, (respond ⟨some Sample.start, []⟩ Sample.broken Sample.post).database = some after ∧
      after.store = Sample.start.store := by
  have reachable : Reachable Sample.start := Store.Created.reachable .directly []
  have fault : ∀ planned ∈ Sample.broken.fault, planned.failure.Refuses := by
    rintro planned given
    cases given
    exact trivial
  have replacement : ∀ failure ∈ Sample.broken.replacement, failure.Refuses := by
    intro failure given
    cases given
  obtain ⟨after, database, framed⟩ := respond_frames reachable fault replacement [] Sample.post
  have unforeseen : (respond ⟨some Sample.start, []⟩ Sample.broken Sample.post).response.status = 500 := by
    decide +kernel
  rw [unforeseen] at framed
  refine ⟨reachable, after, database, framed.kept fun endpoint _ said => ?_⟩
  exact absurd (Endpoint.writeStatus_lt said) (by decide)

end AnchorRegistry
