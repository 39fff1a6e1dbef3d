import AnchorRegistry.Proofs.Http.Columns
import AnchorRegistry.Proofs.Listing

/-! What a write returns is what later reads show. A write answers with the row as it was made and the store keeps the
row as it will read back; under its wire names the two differ in nothing but the sign of a zero and the zone of a time
that the write itself set. A row that was written stays where it is until its anchor is updated, whatever else
happens, and there every read finds it: by its identifier, by its account, and as the one entry of a list that has its
identifier. -/

namespace AnchorRegistry

open Repository (Invocation Rows anchorRow updatedRow assetRow)
open Http (Circumstances Reaches pathOf)

namespace Json

/-- A member of an object as it is read, against the one that was written under the same key: equal, or the same
finite number, or the same time without its zone. -/
inductive Shows : Text × Json → Text × Json → Prop
  | same (member : Text × Json) : Shows member member
  | number {key : Text} {d e : Double} {units : Int} (written : d.signedUnits? = some units)
    (read : e.signedUnits? = some units) : Shows (key, .double d) (key, .double e)
  | time {key : Text} (instant : Instant) (timed : key = "createdAt" ∨ key = "updatedAt") :
    Shows (key, .string (instant.toText ++ ("Z" : Text))) (key, .string instant.toText)

/-- The object that is read has the keys of the one that was written, in the same order, and shows its values. -/
def ReadsAs (written read : Json) : Prop :=
  ∃ members shown, written = .object members ∧ read = .object shown ∧ List.Forall₂ Shows members shown

theorem Shows.double (key : Text) (d : Double) : Shows (key, .double d) (key, .double d.dropZeroSign) := by
  cases d with
  | finite negative units representable => exact .number rfl (Double.signedUnits?_dropZeroSign _)
  | _ => exact .same _

theorem Shows.optional (key : Text) (d : Option Double) :
    Shows (key, Http.ofOptional .double d) (key, Http.ofOptional .double (d.map Double.dropZeroSign)) := by
  cases d with
  | none => exact .same _
  | some d => exact .double key d

theorem Shows.timestamp {key : Text} (timed : key = "createdAt" ∨ key = "updatedAt") (t : Timestamp) :
    Shows (key, Http.wireTimestamp t) (key, Http.wireTimestamp t.stored) := by
  have read : Http.wireTimestamp t.stored = .string t.instant.toText := congrArg Json.string (List.append_nil _)
  rw [read]
  obtain ⟨instant, zoned⟩ := t
  cases zoned with
  | true => exact .time instant timed
  | false =>
      have written : Http.wireTimestamp ⟨instant, false⟩ = .string instant.toText :=
        congrArg Json.string (List.append_nil _)
      rw [written]
      exact .same _

end Json

namespace Http

open Json (Shows)

theorem shows_wireMetric (m : Metrics) (metric : Metric) :
    Shows (metric.wireName, wireMetric m metric) (metric.wireName, wireMetric m.stored metric) := by
  cases metric with
  | trustScore => exact .optional _ m.trustScore
  | reliabilityScore => exact .optional _ m.reliabilityScore
  | totalVolumeUsd => exact .double _ m.totalVolumeUsd
  | _ => exact .same _

/-- An anchor reads back as it was written. -/
theorem readsAs_stored (a : Anchor) : (wireAnchor a).ReadsAs (wireAnchor a.stored) := by
  refine ⟨_, _, rfl, rfl, ?_⟩
  apply List.rel_append
  · apply List.rel_append
    · exact List.forall₂_same.2 fun member _ => .same member
    · rw [List.forall₂_map_left_iff, List.forall₂_map_right_iff, List.forall₂_same]
      intro metric _
      exact shows_wireMetric a.metrics metric
  · exact .cons (.timestamp (.inl rfl) a.createdAt) (.cons (.timestamp (.inr rfl) a.updatedAt) .nil)

/-- An asset reads back as it was written. -/
theorem readsAs_stored_asset (a : Asset) : (wireAsset a).ReadsAs (wireAsset a.stored) := by
  refine ⟨_, _, rfl, rfl, ?_⟩
  refine .cons (.same _) (.cons (.same _) (.cons (.same _) (.cons (.same _) (.cons ?_ (.cons (.same _) ?_)))))
  · exact .optional _ a.totalSupply
  · exact .cons (.timestamp (.inl rfl) a.createdAt) (.cons (.timestamp (.inr rfl) a.updatedAt) .nil)

theorem member?_id_wireAnchor (a : Anchor) : (wireAnchor a).member? "id" = some (.string a.id.toText) := by
  obtain ⟨members, object, row⟩ := wireAnchor_isRow a .direct
  rw [object]
  exact row.member? .id

theorem member?_id_wireAsset (a : Asset) : (wireAsset a).member? "id" = some (.string a.id.toText) := by
  obtain ⟨members, object, row⟩ := wireAsset_isRow a .direct
  rw [object]
  exact row.member? .id

end Http

theorem EntityId.toText_injective {id other : EntityId} (same : id.toText = other.toText) : id = other := by
  have read := congrArg EntityId.parse? same
  rw [id.parse?_toText, other.parse?_toText] at read
  exact Option.some.inj read

section Stays

variable {connection : Connection}

/-- An anchor stays as it is until the next successful update of it. -/
theorem mem_anchors_run (reachable : Reachable connection) {a : Anchor} (member : a ∈ connection.store.anchors)
    {steps : List Step}
    (untouched : ∀ e ∈ history connection steps, ∀ row, e.updated? = some row → row.id ≠ a.id) :
    a ∈ (run connection steps).store.anchors := by
  refine history_invariant (I := fun store past =>
    (∀ e ∈ past, ∀ row, e.updated? = some row → row.id ≠ a.id) → a ∈ store.anchors) ?_ reachable (fun _ => member)
    steps untouched
  intro before after past c invocation outcome _ _ old effect silent
  rw [List.forall_mem_append, List.forall_mem_singleton] at silent
  rw [effect.anchors]
  refine List.mem_append_left _ (List.mem_map.2 ⟨a, old silent.1, ?_⟩)
  exact Event.touch_eq_self silent.2

/-- An asset stays as it is for good. -/
theorem mem_assets_run (reachable : Reachable connection) {a : Asset} (member : a ∈ connection.store.assets)
    (steps : List Step) : a ∈ (run connection steps).store.assets := by
  refine history_invariant (I := fun store _ => a ∈ store.assets) ?_ reachable member steps
  intro before after past c invocation outcome _ _ stored effect
  rw [effect.assets]
  exact List.mem_append_left _ stored

end Stays

namespace Http

/-- The request reads a path, and nothing keeps it from doing so. -/
structure Reading (c : Circumstances) (request : Request) (segments : List Text) : Prop where
  unfaulted : c.fault = none
  unreplaced : c.replacement = none
  method : request.method = "GET"
  path : request.path = pathOf segments

/-- The request is answered with this value. -/
def Serves (connection : Connection) (c : Circumstances) (request : Request) (value : Json) : Prop :=
  ∀ origins, (respond ⟨some connection, origins⟩ c request).response.Says { status := 200, body := some value }

/-- The request is answered with a list, one entry of which has the identifier, and reads as what was written. -/
def ServesEntry (connection : Connection) (c : Circumstances) (request : Request) (id : EntityId) (written : Json) :
    Prop :=
  ∃ entries, Serves connection c request (.array entries) ∧ ∃ entry ∈ entries, written.ReadsAs entry ∧
    ∀ other ∈ entries, other.member? "id" = some (.string id.toText) → other = entry

/-- Every read of an anchor shows what was written. -/
structure ShowsAnchor (connection : Connection) (id : EntityId) (account : Text) (written : Json) : Prop where
  byId : ∀ c request raw, EntityId.parse? raw = some id → Reading c request ["anchors", raw] →
    ∃ read, Serves connection c request read ∧ written.ReadsAs read
  listed : ∀ c request, Reading c request ["anchors"] → ServesEntry connection c request id written
  byAccount : connection.store.uniqueAccounts → ∀ c request (raw : Text), raw.strip = account →
    ('/' : CodePoint) ∉ raw → Reading c request ["anchors", "account", raw] →
      ∃ read, Serves connection c request read ∧ written.ReadsAs read

/-- The list of its anchor's assets shows an asset as it was written. -/
def ShowsAsset (connection : Connection) (owner id : EntityId) (written : Json) : Prop :=
  ∀ c request raw, EntityId.parse? raw = some owner → Reading c request ["anchors", raw, "assets"] →
    ServesEntry connection c request id written

section Reads

variable {connection : Connection} {c : Circumstances} {request : Request} {segments : List Text}

theorem serves_of_run (reachable : Reachable connection) (reading : Reading c request segments) {endpoint : Endpoint}
    (found : dispatch "GET" (pathOf segments) = .found endpoint) (reads : endpoint.takesBody = false)
    {invocation : Invocation} (call : endpoint.invocation? none = some (.accepted invocation)) {rows : Rows}
    (status : successStatus invocation = 200) (gave : (invocation.run c connection).1 = .ok rows) :
    Serves connection c request (wireRows rows) := by
  intro origins
  have reaches : Reaches request endpoint none := by
    refine ⟨?_, ?_⟩
    · rw [reading.method, reading.path]
      exact found
    · rw [reads]
      rfl
  have told := (respond_told reachable reading.unreplaced origins reaches call).2
  rw [gave] at told
  exact ⟨told.status.trans status, told.body⟩

theorem showsAnchor_of_mem (reachable : Reachable connection) {a : Anchor}
    (member : a.stored ∈ connection.store.anchors) :
    ShowsAnchor connection a.id a.accountReference (wireAnchor a) := by
  have legal := reachable.legal
  refine ⟨?_, ?_, ?_⟩
  · intro c request raw read reading
    have gave := Invocation.run_getAnchorById reading.unfaulted legal member read
    exact ⟨_, serves_of_run reachable reading (dispatch_of_parse? read).1 rfl rfl rfl gave, readsAs_stored a⟩
  · intro c request reading
    have found : dispatch "GET" (pathOf ["anchors"]) = .found .listAnchors := by decide +kernel
    have gave := Invocation.run_listAnchors reading.unfaulted (Store.anchorTable_of_mem member)
    refine ⟨_, serves_of_run reachable reading found rfl rfl rfl gave, wireAnchor a.stored, ?_, readsAs_stored a, ?_⟩
    · exact List.mem_map_of_mem (List.mem_mergeSort.2 member)
    · intro other among same
      obtain ⟨b, stored, rfl⟩ := List.mem_map.1 among
      rw [member?_id_wireAnchor, Option.some.injEq, Json.string.injEq] at same
      have sole : b = a.stored := List.inj_on_of_nodup_map legal.anchorIds (List.mem_mergeSort.1 stored) member
        (EntityId.toText_injective same)
      rw [sole]
  · intro unique c request raw same free reading
    have nonempty : raw ≠ [] := by
      rintro rfl
      exact (legal.anchors _ member).accountReference.nonempty same.symm
    have gave := Invocation.run_getAnchorByAccount reading.unfaulted legal reachable.settled unique member same
    exact ⟨_, serves_of_run reachable reading (dispatch_anchorByAccount nonempty free) rfl rfl rfl gave,
      readsAs_stored a⟩

theorem showsAsset_of_mem (reachable : Reachable connection) {a : Asset}
    (member : a.stored ∈ connection.store.assets) : ShowsAsset connection a.anchorId a.id (wireAsset a) := by
  have legal := reachable.legal
  intro c request raw read reading
  obtain ⟨owner, stored, same⟩ := legal.owned _ member
  have named : owner.id = a.anchorId := same
  rw [← named] at read
  have gave := Invocation.run_listAssetsForAnchor reading.unfaulted legal stored (Store.assetTable_of_mem member) read
  refine ⟨_, serves_of_run reachable reading (dispatch_of_parse? read).2.2.1 rfl rfl rfl gave, wireAsset a.stored, ?_,
    readsAs_stored_asset a, ?_⟩
  · exact List.mem_map_of_mem (Store.mem_owned.2 ⟨member, named.symm⟩)
  · intro other among same
    obtain ⟨b, owned, rfl⟩ := List.mem_map.1 among
    rw [member?_id_wireAsset, Option.some.injEq, Json.string.injEq] at same
    have sole : b = a.stored := List.inj_on_of_nodup_map legal.assetIds (Store.mem_owned.1 owned).1 member
      (EntityId.toText_injective same)
    rw [sole]

end Reads

/-- What was written under an endpoint stays readable: an anchor as long as it is not updated again, and an asset for
good. -/
inductive StaysReadable (after : Connection) (written : Json) : Endpoint → Prop
  | registered {id : EntityId} {account : Text} (named : written.member? "id" = some (.string id.toText))
    (owned : written.member? "accountReference" = some (.string account))
    (shows : ∀ steps, (∀ e ∈ history after steps, ∀ row, e.updated? = some row → row.id ≠ id) →
      ShowsAnchor (run after steps) id account written) : StaysReadable after written .createAnchor
  | updated {raw : Text} {id : EntityId} {account : Text} (read : EntityId.parse? raw = some id)
    (named : written.member? "id" = some (.string id.toText))
    (owned : written.member? "accountReference" = some (.string account))
    (shows : ∀ steps, (∀ e ∈ history after steps, ∀ row, e.updated? = some row → row.id ≠ id) →
      ShowsAnchor (run after steps) id account written) : StaysReadable after written (.updateMetrics raw)
  | issued {raw : Text} {owner id : EntityId} (read : EntityId.parse? raw = some owner)
    (named : written.member? "id" = some (.string id.toText))
    (shows : ∀ steps, ShowsAsset (run after steps) owner id written) : StaysReadable after written (.createAsset raw)

section Writes

variable {connection : Connection} {c : Circumstances} {request : Request} {endpoint : Endpoint}

/-- A request that is answered with the status of its write made the call of its endpoint, and the call returned. -/
theorem exists_returned_of_status
    (fault : ∀ planned ∈ c.fault, planned.failure.Refuses) (replacement : ∀ failure ∈ c.replacement, failure.Refuses)
    (origins : List Text) (found : dispatch request.method request.path = .found endpoint)
    (answered : endpoint.writeStatus? = some (respond ⟨some connection, origins⟩ c request).response.status) :
    ∃ body invocation rows after, Reaches request endpoint body ∧
      endpoint.invocation? body = some (.accepted invocation) ∧ c.replacement = none ∧
      invocation.run c connection = (.ok rows, after) := by
  have low := Endpoint.writeStatus_lt answered
  have same {other : Endpoint} (found' : dispatch request.method request.path = .found other) : other = endpoint :=
    Dispatch.found.inj (found'.symm.trans found)
  rw [respond_status] at answered low
  obtain ⟨after, -, course⟩ := answer_course origins c connection request
  generalize (answer ⟨some connection, origins⟩ c request).1 = answered' at course answered low
  cases course with
  | astray lost => exact absurd found (lost endpoint)
  | unreadable found' takes unread => exact absurd low (Int.not_lt.2 (Answer.refuses_ofBodyFault _ _))
  | healthy found' | readied found' =>
      obtain rfl := same found'
      cases answered
  | rejected reaches call => exact absurd low (Int.not_lt.2 (Answer.refuses_ofDetails _ _))
  | replaced reaches call given => exact absurd low (Int.not_lt.2 (Answer.refuses_ofFailure (replacement _ given) _))
  | @ran endpoint body invocation result after reaches call unreplaced ran =>
      obtain rfl := same reaches.found
      cases result with
      | ok rows => exact ⟨body, invocation, rows, after, reaches, call, unreplaced, ran⟩
      | error failure =>
          have covered : (c.session connection).FaultRefuses := fault
          have refuses := (Invocation.run_error ran).2.classified.refuses covered
          exact absurd low (Int.not_lt.2 (Answer.refuses_ofFailure refuses _))

theorem shows_run {after : Connection} (reachable : Reachable after) {a : Anchor}
    (member : a.stored ∈ after.store.anchors) (steps : List Step)
    (untouched : ∀ e ∈ history after steps, ∀ row, e.updated? = some row → row.id ≠ a.id) :
    ShowsAnchor (run after steps) a.id a.accountReference (wireAnchor a) :=
  showsAnchor_of_mem (reachable.run steps) (mem_anchors_run reachable member untouched)

section Returned

variable (reachable : Reachable connection) {rows : Rows} {after : Connection}

include reachable

theorem staysReadable_createAnchor {p : Payload.NewAnchor}
    (ran : (Invocation.createAnchor p).run c connection = (.ok rows, after)) :
    StaysReadable after (wireRows rows) .createAnchor := by
  have onward := reachable.call c (.createAnchor p)
  rw [ran] at onward
  have returns := Invocation.run_ok ran
  generalize same : after.store = store at returns
  cases returns with
  | createAnchor valid written =>
      have joined := Store.anchorJoined (Session.eq_ok_of_attempt written)
      have member : (anchorRow p c.freshId c.now).stored ∈ after.store.anchors := by
        rw [same, joined.anchors]
        exact List.mem_append_right _ List.mem_cons_self
      exact .registered rfl rfl (shows_run onward member)

theorem staysReadable_updateMetrics {raw : Text} {p : Payload.MetricsUpdate}
    (ran : (Invocation.updateAnchorMetrics raw p).run c connection = (.ok rows, after)) :
    StaysReadable after (wireRows rows) (.updateMetrics raw) := by
  have onward := reachable.call c (.updateAnchorMetrics raw p)
  rw [ran] at onward
  have returns := Invocation.run_ok ran
  generalize same : after.store = store at returns
  cases returns with
  | @updateAnchorMetrics _ _ anchor _ valid old consistent written =>
      have merged := Store.merged reachable.legal reachable.settled old.mem.1 valid consistent
        (Session.eq_ok_of_attempt written)
      have member : (updatedRow anchor p c.now).stored ∈ after.store.anchors := by
        rw [same, (reachable.settled.anchors anchor old.mem.1).stored_updatedRow]
        exact merged.mem_after
      exact .updated old.mem.2 rfl rfl (shows_run onward member)

theorem staysReadable_createAsset {raw : Text} {p : Payload.NewAsset}
    (ran : (Invocation.createAsset raw p).run c connection = (.ok rows, after)) :
    StaysReadable after (wireRows rows) (.createAsset raw) := by
  have onward := reachable.call c (.createAsset raw p)
  rw [ran] at onward
  have returns := Invocation.run_ok ran
  generalize same : after.store = store at returns
  cases returns with
  | @createAsset _ _ anchor _ valid old written =>
      have joined := Store.assetJoined (Session.eq_ok_of_attempt written)
      have member : (assetRow p anchor.id c.freshId c.now).stored ∈ after.store.assets := by
        rw [same, joined.assets]
        exact List.mem_append_right _ List.mem_cons_self
      refine .issued old.mem.2 rfl fun steps => ?_
      exact showsAsset_of_mem (onward.run steps) (mem_assets_run onward member steps)

end Returned

/-- What a write is answered with is what later reads show. Of a request that was answered with the status of its
write, the body reads back: a registered or updated anchor under its identifier, in the list of anchors and under its
account, until the next successful update of it, and an asset in the list of its anchor's assets. -/
theorem respond_readBack (reachable : Reachable connection)
    (fault : ∀ planned ∈ c.fault, planned.failure.Refuses) (replacement : ∀ failure ∈ c.replacement, failure.Refuses)
    (origins : List Text) (found : dispatch request.method request.path = .found endpoint)
    (answered : endpoint.writeStatus? = some (respond ⟨some connection, origins⟩ c request).response.status) :
    ∃ after written, (respond ⟨some connection, origins⟩ c request).database = some after ∧
      (respond ⟨some connection, origins⟩ c request).response.body = some written ∧
      StaysReadable after written endpoint := by
  obtain ⟨body, invocation, rows, after, reaches, call, unreplaced, ran⟩ :=
    exists_returned_of_status fault replacement origins found answered
  obtain ⟨database, told⟩ := respond_told reachable unreplaced origins reaches call
  rw [ran] at database told
  refine ⟨after, wireRows rows, database, told.body, ?_⟩
  cases endpoint with
  | createAnchor =>
      obtain ⟨p, -, rfl⟩ := Payload.Checked.map_eq_accepted.1 (Option.some.inj call)
      exact staysReadable_createAnchor reachable ran
  | updateMetrics raw =>
      obtain ⟨p, -, rfl⟩ := Payload.Checked.map_eq_accepted.1 (Option.some.inj call)
      exact staysReadable_updateMetrics reachable ran
  | createAsset raw =>
      obtain ⟨p, -, rfl⟩ := Payload.Checked.map_eq_accepted.1 (Option.some.inj call)
      exact staysReadable_createAsset reachable ran
  | _ => cases answered

end Writes

end Http

/-- A registration is answered with 201, and every read shows what it was answered with. -/
theorem Http.respond_readBack_post : Reachable Sample.start ∧
    (respond ⟨some Sample.start, []⟩ Sample.circumstances Sample.post).response.status = 201 ∧
    ∃ after written id account,
      (respond ⟨some Sample.start, []⟩ Sample.circumstances Sample.post).response.body = some written ∧
      ShowsAnchor after id account written := by
  have reachable : Reachable Sample.start := Store.Created.reachable .directly []
  have found : dispatch Sample.post.method Sample.post.path = .found .createAnchor := by decide +kernel
  have status : (respond ⟨some Sample.start, []⟩ Sample.circumstances Sample.post).response.status = 201 := by
    decide +kernel
  obtain ⟨after, written, -, body, stays⟩ := respond_readBack (c := Sample.circumstances) reachable nofun nofun []
    found (congrArg some status.symm)
  cases stays with
  | @registered id account named owned shows =>
      exact ⟨reachable, status, after, written, id, account, body, shows [] (List.forall_mem_nil _)⟩

end AnchorRegistry
