import AnchorRegistry.Proofs.Alarm
import AnchorRegistry.Proofs.Http.Concealment
import AnchorRegistry.Proofs.Http.Context

/-! What requests log. A session warrants its alarms by the failure that ends it, and the answer to that failure adds
one record of its own. So the log of a request for anchors raises an alarm exactly where the caller is told of an
internal failure, and a critical one exactly where an invariant was broken. Readiness is left out: it logs a warning
of its own and tells the caller no more than that the service is not ready. The path in a record is the one that
`Url.shownPath` gives. -/

namespace AnchorRegistry

open Repository (Invocation)

namespace Http

section Records

variable (path : Text) (e : ServiceError)

theorem level_errorRecord : (errorRecord path e).level = .critical ↔ (Failure.service e).BreaksInvariant := by
  obtain ⟨cause, context⟩ := e
  constructor
  · intro critical
    cases cause with
    | invariantViolation message => exact ⟨message, context, rfl⟩
    | _ =>
        unfold errorRecord at critical
        simp only at critical
        split at critical <;> cases critical
  · rintro ⟨message, context, same⟩
    cases same
    rfl

/-- The record of an error alarms when the error lies with the service. -/
theorem alarms_errorRecord : (errorRecord path e).Alarms ↔ 500 ≤ e.cause.httpStatus := by
  unfold Log.Record.Alarms errorRecord Cause.isInternal
  split
  · rename_i broken
    rw [broken]
    exact iff_of_true (by decide : (40 : Int) ≤ 50) (by decide : (500 : Int) ≤ 500)
  · by_cases internal : 500 ≤ e.cause.httpStatus
    · simp only [internal, decide_true, if_true, iff_true]
      decide
    · simp only [internal, decide_false, Bool.false_eq_true, if_false, iff_false]
      decide

theorem alarms_unforeseenRecord : (unforeseenRecord path).Alarms := (by decide : (40 : Int) ≤ 40)

/-- A path in which nothing has a meaning in a URL is shown as it is. -/
theorem Url.shownPath_eq_self (plain : ∀ mark ∈ ("?#\\\t\n\r" : Text), mark ∉ path) : Url.shownPath path = path := by
  have apart (c : CodePoint) (member : c ∈ path) (mark : CodePoint) (special : mark ∈ ("?#\\\t\n\r" : Text)) :
      c ≠ mark := by
    rintro rfl
    exact plain c special member
  have kept : Url.ofPath path = path := by
    unfold Url.ofPath
    calc
      _ = path.flatMap fun c => [c] := by
        apply List.flatMap_congr
        intro c member
        simp [apart c member '?' (by decide), apart c member '#' (by decide), apart c member '\\' (by decide)]
      _ = path := List.flatMap_singleton' path
  unfold Url.shownPath
  rw [kept, List.filter_eq_self]
  intro c member
  simp [apart c member '\t' (by decide), apart c member '\n' (by decide), apart c member '\r' (by decide)]

end Records

/-- A request whose path begins with another segment does not ask for readiness. -/
theorem dispatch_ne_ready {method first : Text} {rest : List Text} (other : first ≠ "health")
    (free : ∀ segment ∈ first :: rest, ('/' : CodePoint) ∉ segment) :
    dispatch method (pathOf (first :: rest)) ≠ .found .ready := by
  intro found
  obtain ⟨-, segments, same, apart, addresses⟩ := dispatch_eq_found_iff.1 found
  have read := segments?_eq_some.2 ⟨List.cons_ne_nil first rest, free, rfl⟩
  rw [same, segments?_eq_some.2 ⟨addresses.ne_nil, apart, rfl⟩, Option.some.injEq] at read
  subst read
  cases addresses
  exact other rfl

/-- How the log of a session goes with the answer: nothing alarms in either, and the caller is told of no internal
failure; or the request met a failure that answers for every alarm. -/
inductive Accounts (database : Option Connection) (c : Circumstances) (request : Request) :
    Answer → List Log.Record → Prop
  | smooth {response : Response} {log session : List Log.Record} (status : response.status < 500)
    (routine : ∀ r ∈ log, ¬r.Alarms) (calm : Log.Calm session) :
    Accounts database c request ⟨some response, log⟩ session
  | stopped {failure : Failure} {session : List Log.Record} (meets : Meets database c request failure)
    (warranted : Log.Warranted failure session) :
    Accounts database c request (.ofFailure (Url.shownPath request.path) failure) session

theorem successStatus_lt (invocation : Invocation) : successStatus invocation < 500 := by
  unfold successStatus
  split <;> decide

section Requests

variable {database : Option Connection} {c : Circumstances} {request : Request}

theorem Accounts.ofDetails (path : Text) (details : List Payload.Detail) :
    Accounts database c request (.ofDetails path details) [] := by
  refine .smooth (by decide : (400 : Int) < 500) (fun r member => ?_) Log.calm_nil
  rw [List.mem_singleton.1 member]
  exact (by decide : ¬(40 : Int) ≤ 30)

theorem Accounts.ofBodyFault (path : Text) (fault : BodyFault) :
    Accounts database c request (.ofBodyFault path fault) [] := by
  cases fault with
  | unreadable => exact .smooth (by decide : (400 : Int) < 500) nofun Log.calm_nil
  | malformed position => exact .ofDetails path _

/-- A call accounts for its alarms as its session does. -/
theorem Reaches.accounts {endpoint : Endpoint} {body : Option Json} {checked : Payload.Checked Invocation}
    (reaches : Reaches request endpoint body) (call : endpoint.invocation? body = some checked)
    (origins : List Text) :
    Accounts database c request (serve ⟨database, origins⟩ c (Url.shownPath request.path) checked).1
      (serve ⟨database, origins⟩ c (Url.shownPath request.path) checked).2.2 := by
  unfold serve
  cases replacement : c.replacement with
  | some failure =>
      cases checked with
      | rejected details => exact .ofDetails _ details
      | accepted invocation => exact .stopped (.replaced reaches call replacement) (Log.calm_nil.warranted failure)
  | none =>
      cases database with
      | none => exact .stopped (.unopened reaches call replacement rfl) (Log.calm_nil.warranted _)
      | some connection =>
          cases checked with
          | rejected details => exact .ofDetails _ details
          | accepted invocation =>
              have warrants := invocation.run_warrants c connection
              cases outcome : (invocation.run c connection).1 with
              | ok rows =>
                  rw [outcome] at warrants
                  simp only [outcome]
                  exact .smooth (successStatus_lt invocation) nofun warrants
              | error failure =>
                  rw [outcome] at warrants
                  simp only [outcome]
                  exact .stopped (.ran reaches call replacement rfl outcome) warrants

theorem answer_accounts (database : Option Connection) (c : Circumstances)
    (unready : dispatch request.method request.path ≠ .found .ready) (origins : List Text) :
    Accounts database c request (answer ⟨database, origins⟩ c request).1
      (answer ⟨database, origins⟩ c request).2.2 := by
  have treated := answer_treated ⟨database, origins⟩ c request
  generalize answer ⟨database, origins⟩ c request = outcome at treated ⊢
  cases treated with
  | @astray response lost status sendable =>
      have external : response.status < 500 := by omega
      exact .smooth external nofun Log.calm_nil
  | unreadable found takes unread => exact .ofBodyFault _ _
  | healthy found => exact .smooth (by decide : (200 : Int) < 500) nofun Log.calm_nil
  | readied found => exact absurd found unready
  | served reaches call => exact reaches.accounts call origins

/-- Whatever alarms, in the session or in the answer, is due to a service error that the request met and that is
answered for. -/
theorem Accounts.of_alarm {answer : Answer} {session : List Log.Record}
    (accounts : Accounts database c request answer session) {r : Log.Record} (member : r ∈ session ++ answer.log)
    (alarms : r.Alarms) :
    ∃ e, answer = .ofFailure (Url.shownPath request.path) (.service e) ∧ Meets database c request (.service e) ∧
      500 ≤ e.cause.httpStatus ∧ (r.level = .critical → (Failure.service e).BreaksInvariant) := by
  cases accounts with
  | smooth status routine calm =>
      rcases List.mem_append.1 member with before | last
      · exact absurd alarms (calm r before).2
      · exact absurd alarms (routine r last)
  | @stopped failure session meets warranted =>
      rcases List.mem_append.1 member with before | last
      · have internal := warranted.alarm r before alarms
        cases failure with
        | service e => exact ⟨e, rfl, meets, internal, warranted.critical r before⟩
        | storage fault | unforeseen reason => exact internal.elim
      · cases failure with
        | service e =>
            rw [List.mem_singleton.1 last] at alarms ⊢
            exact ⟨e, rfl, meets, (alarms_errorRecord _ e).1 alarms, (level_errorRecord _ e).1⟩
        | storage fault | unforeseen reason => cases last

theorem Accounts.source {answer : Answer} {session : List Log.Record}
    (accounts : Accounts database c request answer session) :
    ∀ r ∈ session, r.source ≠ Log.Source.errorHandlers.name := by
  cases accounts with
  | smooth status routine calm => exact fun r member => (calm r member).1
  | stopped meets warranted => exact warranted.source

/-- A caller who is told of an internal failure is answered with an alarm. -/
theorem Accounts.exists_alarm {answer : Answer} {session : List Log.Record}
    (accounts : Accounts database c request answer session) {response : Response}
    (given : answer.response = some response) (internal : 500 ≤ response.status) : ∃ r ∈ answer.log, r.Alarms := by
  cases accounts with
  | smooth status routine calm =>
      cases given
      exact absurd internal (Int.not_le.2 status)
  | @stopped failure session meets warranted =>
      cases failure with
      | service e =>
          cases given
          exact ⟨_, List.mem_singleton_self _, (alarms_errorRecord _ e).2 internal⟩
      | storage fault | unforeseen reason => cases given

/-- An internal error can always be sent, and it adds one record to what its session logged. -/
theorem Meets.respond_of_internal {e : ServiceError} (meets : Meets database c request (.service e))
    (internal : 500 ≤ e.cause.httpStatus) (origins : List Text) :
    (respond ⟨database, origins⟩ c request).response.Says
        { status := e.cause.httpStatus
          body := some (errorEnvelope internalCode genericFailureMessage Category.internal.name e.cause.severity.name
            [("timestamp", .string e.context.timestamp.toUtcText)]) } ∧
      (respond ⟨database, origins⟩ c request).log =
        (answer ⟨database, origins⟩ c request).2.2 ++ [errorRecord (Url.shownPath request.path) e] := by
  have answered := meets.answer_eq origins
  rw [← response_of_internal internal]
  rcases respond_cases ⟨database, origins⟩ c request with ⟨response, given, -, told, noted⟩ | ⟨unsendable, -, -⟩
  · rw [answered] at given noted
    cases given
    exact ⟨told, noted⟩
  · have sendable : e.response.storable := e.storable_response.2 (.inl (decide_eq_true internal))
    rw [answered] at unsendable
    exact absurd sendable (unsendable _ rfl)

/-- An alarm goes with an internal status. -/
theorem alarms_iff (unready : dispatch request.method request.path ≠ .found .ready) (origins : List Text) :
    (∃ r ∈ (respond ⟨database, origins⟩ c request).log, r.Alarms) ↔
      500 ≤ (respond ⟨database, origins⟩ c request).response.status := by
  have accounts := answer_accounts database c unready origins
  rcases respond_cases ⟨database, origins⟩ c request with
    ⟨response, given, -, told, logged⟩ | ⟨-, constant, logged⟩
  · rw [told.status, logged]
    constructor
    · rintro ⟨r, member, alarms⟩
      obtain ⟨e, answered, -, internal, -⟩ := accounts.of_alarm member alarms
      rw [answered] at given
      cases given
      exact internal
    · intro internal
      obtain ⟨r, member, alarms⟩ := accounts.exists_alarm given internal
      exact ⟨r, List.mem_append_right _ member, alarms⟩
  · rw [constant, logged]
    refine iff_of_true ⟨_, List.mem_append_right _ (List.mem_singleton_self _), alarms_unforeseenRecord _⟩ ?_
    exact (by decide : (500 : Int) ≤ 500)

/-- A critical alarm goes with a broken invariant. -/
theorem critical_iff (unready : dispatch request.method request.path ≠ .found .ready) (origins : List Text) :
    (∃ r ∈ (respond ⟨database, origins⟩ c request).log, r.level = .critical) ↔
      ∃ failure, Meets database c request failure ∧ failure.BreaksInvariant := by
  constructor
  · rintro ⟨r, member, critical⟩
    have answered : r ∈ (answer ⟨database, origins⟩ c request).2.2 ++
        (answer ⟨database, origins⟩ c request).1.log := by
      rcases respond_cases ⟨database, origins⟩ c request with ⟨_, -, -, -, logged⟩ | ⟨-, -, logged⟩
      · exact logged ▸ member
      · rw [logged, List.mem_append] at member
        refine member.resolve_right fun last => ?_
        rw [List.mem_singleton.1 last] at critical
        cases critical
    have accounts := answer_accounts database c unready origins
    obtain ⟨e, -, meets, -, broken⟩ := accounts.of_alarm answered (.of_critical critical)
    exact ⟨_, meets, broken critical⟩
  · rintro ⟨_, meets, message, context, rfl⟩
    have noted : errorRecord (Url.shownPath request.path) ⟨.invariantViolation message, context⟩ ∈
        (answer ⟨database, origins⟩ c request).1.log := by
      rw [meets.answer_eq origins]
      exact List.mem_singleton_self _
    exact ⟨_, mem_respond_log (.inr noted), rfl⟩

/-- The records of a log that are said of an answer. -/
def answerRecords (log : List Log.Record) : List Log.Record :=
  log.filter fun r => r.source = Log.Source.errorHandlers.name

/-- A service error that was met has one record in the answer to it, and there is a second only where the error
cannot be sent. -/
theorem Meets.answerRecords_eq {e : ServiceError} (meets : Meets database c request (.service e))
    (unready : dispatch request.method request.path ≠ .found .ready) (origins : List Text) :
    (e.response.storable →
      (respond ⟨database, origins⟩ c request).response.Says
        { status := e.cause.httpStatus, body := some e.response } ∧
      answerRecords (respond ⟨database, origins⟩ c request).log = [errorRecord (Url.shownPath request.path) e]) ∧
    (¬e.response.storable → (respond ⟨database, origins⟩ c request).response = unforeseenResponse ∧
      answerRecords (respond ⟨database, origins⟩ c request).log =
        [errorRecord (Url.shownPath request.path) e, unforeseenRecord (Url.shownPath request.path)]) := by
  have answered := meets.answer_eq origins
  have silent : answerRecords (answer ⟨database, origins⟩ c request).2.2 = [] := by
    have apart := (answer_accounts database c unready origins).source
    rw [answerRecords, List.filter_eq_nil_iff]
    exact fun r member same => apart r member (by simpa using same)
  rcases respond_cases ⟨database, origins⟩ c request with
    ⟨response, given, sendable, told, logged⟩ | ⟨unsendable, constant, logged⟩
  · rw [answered] at given logged
    cases given
    refine ⟨fun _ => ⟨told, ?_⟩, fun unsendable => absurd sendable unsendable⟩
    rw [logged, answerRecords, List.filter_append, ← answerRecords, silent]
    rfl
  · rw [answered] at unsendable logged
    refine ⟨fun sendable => absurd sendable (unsendable _ rfl), fun _ => ⟨constant, ?_⟩⟩
    rw [logged, answerRecords, List.append_assoc, List.filter_append, ← answerRecords, silent]
    rfl

/-- On any request for anchors, whatever state the database is in and whatever fails: an alarm is logged exactly where
the status tells of an internal failure, and a critical one exactly where the failure that was met is a broken
invariant. A service error that was met is answered by one record, with the code of the error itself and the path of
the request; if it cannot be sent, a second record says so. The path that is logged is `request.url.path`: in it `?`,
`#` and backslash are percent-encoded and tabs, line feeds and carriage returns are gone, and by the last part a decoded
path with none of these six is logged as it came. -/
theorem respond_logs (service : Service) (c : Circumstances) (request : Request)
    (unready : dispatch request.method request.path ≠ .found .ready) :
    ((∃ r ∈ (respond service c request).log, r.Alarms) ↔ 500 ≤ (respond service c request).response.status) ∧
    ((∃ r ∈ (respond service c request).log, r.level = .critical) ↔
      ∃ failure, Meets service.database c request failure ∧ failure.BreaksInvariant) ∧
    (∀ e, Meets service.database c request (.service e) →
      (e.response.storable →
        (respond service c request).response.Says { status := e.cause.httpStatus, body := some e.response } ∧
        ∃ r, answerRecords (respond service c request).log = [r] ∧ r.extras.errorCode = some e.cause.code ∧
          r.extras.path = some (Url.shownPath request.path)) ∧
      (¬e.response.storable → (respond service c request).response = unforeseenResponse ∧
        answerRecords (respond service c request).log =
          [errorRecord (Url.shownPath request.path) e, unforeseenRecord (Url.shownPath request.path)])) ∧
    ((∀ mark ∈ ("?#\\\t\n\r" : Text), mark ∉ request.path) → Url.shownPath request.path = request.path) := by
  obtain ⟨database, origins⟩ := service
  refine ⟨alarms_iff unready origins, critical_iff unready origins, fun e meets => ?_,
    Url.shownPath_eq_self request.path⟩
  have records := meets.answerRecords_eq unready origins
  refine ⟨fun encodable => ⟨(records.1 encodable).1, _, (records.1 encodable).2, rfl, rfl⟩, records.2⟩

end Requests

end Http

/-- Contradictory rows raise a critical alarm, under a code that the caller is not told; a database that was never
opened raises an alarm; and a list of anchors raises none. -/
theorem Http.respond_logs_listing :
    (∃ r ∈ (respond ⟨none, []⟩ (Sample.standIn (.service Sample.contradictory)) Sample.listing).log,
      r.level = .critical) ∧
    (∃ r, answerRecords (respond ⟨none, []⟩ (Sample.standIn (.service Sample.contradictory)) Sample.listing).log =
      [r] ∧ r.extras.errorCode = some ("INVARIANT_VIOLATION" : Text) ∧ r.extras.path = some ("/anchors" : Text)) ∧
    (∃ r ∈ (respond ⟨none, []⟩ Sample.circumstances Sample.listing).log, r.Alarms) ∧
    ¬∃ r ∈ (respond ⟨some Sample.start, []⟩ Sample.circumstances Sample.listing).log, r.Alarms := by
  have unready : dispatch Sample.listing.method Sample.listing.path ≠ .found .ready :=
    dispatch_ne_ready (by decide : ("anchors" : Text) ≠ "health")
      (by decide : ∀ segment ∈ [("anchors" : Text)], ('/' : CodePoint) ∉ segment)
  have replaced : Meets none (Sample.standIn (.service Sample.contradictory)) Sample.listing
      (.service Sample.contradictory) := .replaced Sample.reaches_listing rfl rfl
  obtain ⟨-, critical, records, -⟩ :=
    respond_logs ⟨none, []⟩ (Sample.standIn (.service Sample.contradictory)) _ unready
  obtain ⟨-, r, sole, code, path⟩ := (records _ replaced).1 (by decide +kernel)
  have closed := respond_logs ⟨none, []⟩ Sample.circumstances _ unready
  have opened := respond_logs ⟨some Sample.start, []⟩ Sample.circumstances _ unready
  refine ⟨critical.2 ⟨_, replaced, _, _, rfl⟩, ⟨r, sole, code, path⟩, closed.1.2 ?_, fun alarm => ?_⟩
  · decide +kernel
  · exact absurd (opened.1.1 alarm) (by decide +kernel)

end AnchorRegistry
