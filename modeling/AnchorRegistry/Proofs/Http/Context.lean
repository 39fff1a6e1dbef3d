import AnchorRegistry.Proofs.Http.Rendered

/-! What errors are about. A service error that leaves a call carries the time of the call, and the identifier
that the call was given: the text as it came, the spelling of the anchor that was found under it, or the stripped
account. Errors of two kinds carry no identifier at all, whatever the call was given: faults of the store that the
operation classified, and refused registrations. `Withholds` says which these are. The record that a request leaves
of an error repeats the context of the error, be it named or not. -/

namespace AnchorRegistry

open Repository (Invocation)

namespace Repository

namespace Invocation

/-- The context names what the call is about. A list of all anchors is about none of them. -/
def Identifies (context : ErrorContext) : Invocation → Prop
  | listAnchors => False
  | createAnchor p => context.accountReference = some p.accountReference.strip
  | getAnchorByAccount raw => context.accountReference = some raw.strip
  | getAnchorById raw | updateAnchorMetrics raw _ | createAsset raw _ | listAssetsForAnchor raw =>
      context.anchorId = some raw ∨ ∃ id, EntityId.parse? raw = some id ∧ context.anchorId = some id.toText

/-- The call raises errors of this cause without an identifier. -/
def Withholds : Invocation → Cause → Prop
  | _, .storageUnavailable .. => True
  | createAnchor _, .invalidInput .. => True
  | _, _ => False

/-- What a failure tells of the call that it ended. -/
inductive Tells (invocation : Invocation) (now : Instant) : Failure → Prop
  | identified {e : ServiceError} (sameTime : e.context.timestamp = now) (named : invocation.Identifies e.context)
    (raised : ¬invocation.Withholds e.cause) : Tells invocation now (.service e)
  | unidentified {cause : Cause} (withheld : invocation.Withholds cause) :
    Tells invocation now (.service ⟨cause, { timestamp := now }⟩)
  | unforeseen {reason : Unforeseen} : Tells invocation now (.unforeseen reason)

/-- An empty context names nothing. -/
theorem not_identifies (invocation : Invocation) (now : Instant) : ¬invocation.Identifies { timestamp := now } := by
  cases invocation <;> simp [Identifies]

variable {invocation : Invocation} {now : Instant}

/-- A fault that an operation classifies no longer says what the operation was about. -/
theorem Tells.of_unclassified {reason : Failure} (unclassified : reason.Unclassified) (operation : Text) :
    invocation.Tells now (reason.classified operation now) := by
  cases reason with
  | service e => exact unclassified.elim
  | storage fault =>
      refine .unidentified ?_
      cases invocation <;> trivial
  | unforeseen reason => exact .unforeseen

theorem Tells.missing {raw : Text} (named : invocation.Identifies { timestamp := now, anchorId := some raw }) :
    invocation.Tells now (.missing raw now) := by
  refine .identified rfl named ?_
  cases invocation <;> exact id

end Invocation

variable {s : Session} {failure : Failure} {raw : Text} (plain : s.FaultUnclassified)

include plain

/-- A call that fails is classified from a failure that nobody classified before. -/
theorem tells_of_attempt {α : Type} {invocation : Invocation} {call : Call} {result : Attempt α} {reason : Failure}
    (store : result.Unclassified) (met : s.attempt call result = .error reason) (operation : Text) :
    invocation.Tells s.now (reason.classified operation s.now) :=
  .of_unclassified (Session.attempt_unclassified plain store reason met) operation

theorem LookupFails.tells {invocation : Invocation} (fails : LookupFails raw s failure)
    (named : invocation.Identifies { timestamp := s.now, anchorId := some raw }) : invocation.Tells s.now failure := by
  cases fails with
  | malformed unread => exact .missing named
  | unknown read nothing => exact .missing named
  | broken read met => exact tells_of_attempt plain (Store.unclassified_selectAnchors _ _) met _

theorem CreateFails.tells {p : Payload.NewAnchor} (fails : CreateFails p s failure) :
    (Invocation.createAnchor p).Tells s.now failure := by
  cases fails with
  | refused found => exact .unidentified trivial
  | taken valid rejected => exact .identified rfl rfl id
  | broken valid met other => exact tells_of_attempt plain (Store.unclassified_insertAnchor _ _ _) met _

theorem AccountFails.tells (fails : AccountFails raw s failure) :
    (Invocation.getAnchorByAccount raw).Tells s.now failure := by
  cases fails with
  | unknown nothing => exact .identified rfl rfl id
  | ambiguous several => exact .identified rfl rfl id
  | broken met => exact tells_of_attempt plain (Store.unclassified_selectByAccount _ _ _) met _

theorem UpdateFails.tells {p : Payload.MetricsUpdate} (fails : UpdateFails raw p s failure) :
    (Invocation.updateAnchorMetrics raw p).Tells s.now failure := by
  cases fails with
  | refused found => exact .identified rfl (.inl rfl) id
  | lookup valid fails => exact fails.tells plain (.inl rfl)
  | inconsistent valid old found => exact .identified rfl (.inr ⟨_, old.mem.2, rfl⟩) id
  | broken valid old consistent met => exact tells_of_attempt plain (Store.unclassified_updateAnchor _ _) met _

theorem AssetFails.tells {p : Payload.NewAsset} (fails : AssetFails raw p s failure) :
    (Invocation.createAsset raw p).Tells s.now failure := by
  cases fails with
  | lookup fails => exact fails.tells plain (.inl rfl)
  | refused old found => exact .identified rfl (.inr ⟨_, old.mem.2, rfl⟩) id
  | rejected old valid met => exact .missing (.inl rfl)
  | broken old valid met other => exact tells_of_attempt plain (Store.unclassified_insertAsset _ _ _) met _

theorem ListingFails.tells (fails : ListingFails raw s failure) :
    (Invocation.listAssetsForAnchor raw).Tells s.now failure := by
  cases fails with
  | lookup fails => exact fails.tells plain (.inl rfl)
  | broken old met =>
      have counted : (s.count .execute).FaultUnclassified := plain
      exact tells_of_attempt counted (Store.unclassified_selectAssets _ _) met _

theorem Invocation.Fails.tells {invocation : Invocation} (fails : invocation.Fails s failure) :
    invocation.Tells s.now failure := by
  cases invocation with
  | createAnchor p => exact CreateFails.tells plain fails
  | listAnchors =>
      cases fails with
      | broken met => exact tells_of_attempt plain (Store.unclassified_selectAnchors _ _) met _
  | getAnchorById raw => exact LookupFails.tells plain fails (.inl rfl)
  | getAnchorByAccount raw => exact AccountFails.tells plain fails
  | updateAnchorMetrics raw p => exact UpdateFails.tells plain fails
  | createAsset raw p => exact AssetFails.tells plain fails
  | listAssetsForAnchor raw => exact ListingFails.tells plain fails

end Repository

namespace Http

/-- What a session and its answer logged is in the log of the reply. -/
theorem mem_respond_log {service : Service} {c : Circumstances} {request : Request} {record : Log.Record}
    (logged : record ∈ (answer service c request).2.2 ∨ record ∈ (answer service c request).1.log) :
    record ∈ (respond service c request).log := by
  have kept : record ∈ (answer service c request).2.2 ++ (answer service c request).1.log := List.mem_append.2 logged
  unfold respond
  simp only
  split
  · exact List.mem_append_left _ kept
  · split
    · exact kept
    · exact List.mem_append_left _ kept

/-- Whatever a call met, as long as no failure was classified beforehand, a service error that leaves it carries the
time of the call and, unless it is of a cause for which the call withholds it, the identifier that the call was given;
and the log of a request that makes the call has a record of the error with the same identifiers. -/
theorem respond_identifies {c : Circumstances} (plain : ∀ planned ∈ c.fault, planned.failure.Unclassified)
    {connection : Connection} {invocation : Invocation} {e : ServiceError}
    (failed : (invocation.run c connection).1 = .error (.service e)) :
    e.context.timestamp = c.now ∧
    (invocation.Identifies e.context ↔ ¬invocation.Withholds e.cause) ∧
    (invocation.Withholds e.cause → e.context.anchorId = none ∧ e.context.accountReference = none) ∧
    (c.replacement = none → ∀ origins request endpoint body, Reaches request endpoint body →
      endpoint.invocation? body = some (.accepted invocation) →
      ∃ record ∈ (respond ⟨some connection, origins⟩ c request).log, record.source = Log.Source.errorHandlers.name ∧
        record.extras.path = some (Url.shownPath request.path) ∧ record.extras.anchorId = e.context.anchorId ∧
        record.extras.accountReference = e.context.accountReference) := by
  have covered : (c.session connection).FaultUnclassified := plain
  have tells : invocation.Tells c.now (.service e) := by
    cases ran : invocation.run c connection with
    | mk result after =>
        rw [ran] at failed
        subst failed
        exact (Invocation.run_error ran).2.tells covered
  have recorded (unreplaced : c.replacement = none) (origins : List Text) (request : Request) (endpoint : Endpoint)
      (body : Option Json) (reaches : Reaches request endpoint body)
      (call : endpoint.invocation? body = some (.accepted invocation)) :
      errorRecord (Url.shownPath request.path) e ∈ (respond ⟨some connection, origins⟩ c request).log := by
    have answered := (answer_of_reaches connection c origins reaches).trans
      (runEndpoint_accepted origins connection _ call unreplaced)
    refine mem_respond_log (.inr ?_)
    rw [answered, failed]
    exact List.mem_singleton_self _
  refine ⟨?_, ?_, ?_, ?_⟩
  · cases tells with
    | identified sameTime named raised => exact sameTime
    | unidentified withheld => rfl
  · cases tells with
    | identified sameTime named raised => exact iff_of_true named raised
    | unidentified withheld => exact iff_of_false (invocation.not_identifies c.now) (not_not_intro withheld)
  · intro withheld
    cases tells with
    | identified sameTime named raised => exact absurd withheld raised
    | unidentified _ => exact ⟨rfl, rfl⟩
  · intro unreplaced origins request endpoint body reaches call
    exact ⟨_, recorded unreplaced origins request endpoint body reaches call, rfl, rfl, rfl, rfl⟩

end Http

namespace Sample

/-- A registration whose name is blank. -/
def nameless : Payload.NewAnchor := { profile with name := " " }

end Sample

/-- The account of a refused registration is given but not named. -/
theorem Http.respond_identifies_nameless : Sample.circumstances.fault = none ∧
    ∃ e : ServiceError, ((Invocation.createAnchor Sample.nameless).run Sample.circumstances Sample.start).1 =
        .error (.service e) ∧ e.context.timestamp = ⟨5⟩ ∧
      ¬(Invocation.createAnchor Sample.nameless).Identifies e.context := by
  have plain : ∀ planned ∈ Sample.circumstances.fault, planned.failure.Unclassified := nofun
  have failed : ((Invocation.createAnchor Sample.nameless).run Sample.circumstances Sample.start).1 =
      .error (.refused (.emptyField "name") none ⟨5⟩) := by decide +kernel
  obtain ⟨sameTime, identifies, -⟩ := respond_identifies plain failed
  exact ⟨rfl, _, failed, sameTime, fun named => identifies.1 named trivial⟩

end AnchorRegistry
