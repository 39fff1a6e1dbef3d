import AnchorRegistry.Http.Readiness
import AnchorRegistry.Http.Route
import AnchorRegistry.Json.Reader
import AnchorRegistry.Repository
import AnchorRegistry.Text.Encoding

/-! Answering requests. A body is read as JSON before a session is opened and as a payload after; then
exactly one operation of the repository runs, and its rows or its failure become the response. A service
error is answered with its own status and envelope, everything else with one constant envelope, and either
leaves a record in the log.

Of a request its method, its path, its body and the header `origin` count. Left out are bodies that their
headers give another type than JSON, the preflight requests of browsers, the header `vary`, and the pages
that document the service. A path is decoded and has no query. -/

namespace AnchorRegistry.Http

structure Request where
  method : Text
  /-- Scheme and authority under which the service was called. -/
  site : Text
  path : Text
  body : Option Text := none
  headers : List (Text × Text) := []
deriving DecidableEq

/-- The first value of a header. A server hands on the names of headers in lower case, and under no other
spelling are they known. -/
def Request.header? (request : Request) (name : Text) : Option Text :=
  (request.headers.find? fun (key, _) => key = name).map (·.2)

namespace Url

/-- The characters that a URL holds as they are. -/
def plainMarks : Text := "_.-~:/%#?=@[]!$&'()*+,;"

def isPlain (byte : Nat) : Bool :=
  ('0'.toNat ≤ byte && byte ≤ '9'.toNat) || ('a'.toNat ≤ byte && byte ≤ 'z'.toNat) ||
    ('A'.toNat ≤ byte && byte ≤ 'Z'.toNat) || plainMarks.any fun c => c.value = byte

def escapeByte (byte : Nat) : Text :=
  if isPlain byte then (CodePoint.ofNat? byte).toList
  else ('%' : CodePoint) :: (Text.ofHex 2 byte).upperAscii

def escape (t : Text) : Text := (Text.utf8 t).flatMap escapeByte

/-- A path as part of a URL: what would end it there, or stand for a slash, is escaped. -/
def ofPath (path : Text) : Text :=
  path.flatMap fun (c : CodePoint) =>
    if c = '?' then "%3F" else if c = '#' then "%23" else if c = '\\' then "%5C" else [c]

/-- The path of the URL under which a request is known, `request.url.path`, which is also what the log shows: the
decoded path with `?`, `#` and backslash percent-encoded, and without tabs, line feeds and carriage returns. -/
def shownPath (path : Text) : Text :=
  (ofPath path).filter fun c =>
    c != ('\t' : CodePoint) && c != ('\n' : CodePoint) && c != ('\r' : CodePoint)

end Url

/-- What a request meets: the time, the identifier of a row it creates, a planned fault, and a failure
that stands in for every operation of the repository. -/
structure Circumstances where
  now : Instant
  freshId : EntityId
  fault : Option Fault := none
  replacement : Option Failure := none

/-- The connection to the database, if one was opened, and the origins that may read responses. -/
structure Service where
  database : Option Connection
  allowedOrigins : List Text

structure Reply where
  response : Response
  database : Option Connection
  log : List Log.Record

namespace Endpoint

def takesBody : Endpoint → Bool
  | createAnchor | updateMetrics _ | createAsset _ => true
  | _ => false

end Endpoint

/-- Reads the payload of a body; a body that is empty or not there is missing as a whole. -/
def readPayload {α : Type} (ofJson : Json → Payload.Checked α) (body : Option Json) : Payload.Checked α :=
  let read : Payload.Checked α :=
    match body with
    | none => .rejected [⟨[], .missing⟩]
    | some json => ofJson json
  read.under "body"

/-- The operation that an endpoint stands for, once its payload is read. -/
def Endpoint.operation (body : Option Json) : Endpoint → Payload.Checked (Action Response)
  | health => .accepted (return healthyResponse)
  | ready => .accepted readiness
  | listAnchors => .accepted do
    let anchors ← Repository.listAnchors
    return { status := 200, body := some (.array (anchors.map wireAnchor)) }
  | createAnchor => (readPayload Payload.NewAnchor.ofJson body).map fun payload => do
    let anchor ← Repository.createAnchor payload
    return { status := 201, body := some (wireAnchor anchor) }
  | anchorByAccount accountReference => .accepted do
    let anchor ← Repository.getAnchorByAccount accountReference
    return { status := 200, body := some (wireAnchor anchor) }
  | anchorById id => .accepted do
    let anchor ← Repository.getAnchorById id
    return { status := 200, body := some (wireAnchor anchor) }
  | updateMetrics id => (readPayload Payload.MetricsUpdate.ofJson body).map fun payload => do
    let anchor ← Repository.updateAnchorMetrics id payload
    return { status := 200, body := some (wireAnchor anchor) }
  | listAssets id => .accepted do
    let assets ← Repository.listAssetsForAnchor id
    return { status := 200, body := some (.array (assets.map wireAsset)) }
  | createAsset id => (readPayload Payload.NewAsset.ofJson body).map fun payload => do
    let asset ← Repository.createAsset id payload
    return { status := 201, body := some (wireAsset asset) }

/-- The record of a service error that reached a caller. -/
def errorRecord (path : Text) (e : ServiceError) : Log.Record where
  level :=
    match e.cause with
    | .invariantViolation _ => .critical
    | cause => if cause.isInternal then .error else .info
  source := Log.Source.errorHandlers.name
  message := e.cause.name ++ (": " : Text) ++ e.cause.message
  extras :=
    { errorCode := some e.cause.code, path := some path, anchorId := e.context.anchorId
      accountReference := e.context.accountReference }

def invalidPayloadRecord (path : Text) : Log.Record where
  level := .warning
  source := Log.Source.errorHandlers.name
  message := ("Validation error on " : Text) ++ path

def unforeseenRecord (path : Text) : Log.Record where
  level := .error
  source := Log.Source.errorHandlers.name
  message := ("Unhandled exception on " : Text) ++ path

/-- What is sent and logged in the end: a response that can be sent, with the header for the caller's
origin, or else the answer to the unforeseen. -/
structure Answer where
  response : Option Response
  log : List Log.Record

def Answer.ofFailure (path : Text) : Failure → Answer
  | .service e => ⟨some { status := e.cause.httpStatus, body := some e.response }, [errorRecord path e]⟩
  | _ => ⟨none, []⟩

def Answer.ofDetails (path : Text) (details : List Payload.Detail) : Answer :=
  ⟨some (invalidPayload details), [invalidPayloadRecord path]⟩

def Answer.ofResult (path : Text) : Except Failure Response → Answer
  | .ok response => ⟨some response, []⟩
  | .error failure => .ofFailure path failure

/-- The session in which a request runs. -/
def Circumstances.session (c : Circumstances) (connection : Connection) : Session :=
  { connection with now := c.now, freshId := c.freshId, fault := c.fault }

/-- Runs an endpoint whose body, if it takes one, was read. -/
def runEndpoint (service : Service) (c : Circumstances) (path : Text) (endpoint : Endpoint)
    (body : Option Json) : Answer × Option Connection × List Log.Record :=
  match endpoint with
  | .health => (⟨some healthyResponse, []⟩, service.database, [])
  | .ready =>
    match service.database with
    | none => (⟨some unopened.1, []⟩, none, unopened.2)
    | some connection =>
      let (result, session) := readiness (c.session connection)
      (.ofResult path result, some session.toConnection, session.log)
  | endpoint =>
    match c.replacement, service.database, endpoint.operation body with
    | some _, database, .rejected details => (.ofDetails path details, database, [])
    | some failure, database, .accepted _ => (.ofFailure path failure, database, [])
    | none, none, _ =>
      (.ofFailure path (.unforeseen (.runtime "Database not initialized")), none, [])
    | none, some connection, .rejected details => (.ofDetails path details, some connection, [])
    | none, some connection, .accepted action =>
      let (result, session) := Action.inSession action (c.session connection)
      (.ofResult path result, some session.toConnection, session.log)

/-- Why a body is not JSON: its bytes are no text, or it holds an oversized number or too deep a nesting,
or it leaves the grammar at a position. -/
inductive BodyFault where
  | unreadable
  | malformed (position : Nat)
deriving DecidableEq

/-- How deep the values of a body may be nested. This is no rule of the service: it is how far the interpreter that runs
it can still descend at the place where a body is read. -/
def maxBodyDepth : Nat := 960

/-- Reads a body as JSON. An empty one is none. Its content type is not looked at, and stands for JSON or for none: a
body of another type would not be read as JSON at all. -/
def readBody (t : Text) : Except BodyFault (Option Json) :=
  if t = [] then .ok none
  else
    match Text.decodeJson? t with
    | none => .error .unreadable
    | some t =>
      match Json.parse t maxBodyDepth with
      | .ok json => .ok (some json)
      | .error ⟨.tooManyDigits _, _⟩ | .error ⟨.tooDeep _, _⟩ => .error .unreadable
      | .error ⟨_, position⟩ => .error (.malformed position)

def Answer.ofBodyFault (path : Text) : BodyFault → Answer
  | .unreadable => ⟨some (plainDetail 400 "There was an error parsing the body"), []⟩
  | .malformed position => .ofDetails path [⟨["body", Text.ofNat position], .malformed⟩]

/-- The header that lets the caller's origin read the response. The bytes of the origin are compared one
by one with the characters of those that are allowed. The header `vary` beside it is left out. -/
def originHeader (allowed : List Text) (request : Request) : List (Text × Text) :=
  match request.header? "origin" with
  | none => []
  | some origin =>
    if allowed.contains "*" then [("access-control-allow-origin", "*")]
    else if allowed.contains (Text.ofBytes (Text.utf8 origin)) then
      [("access-control-allow-origin", origin)]
    else []

/-- The answer to a request before its headers are completed. A preflight request, with which a browser asks what an
origin may do, is answered before any route is looked up; it is left out, and `OPTIONS` is here a method like
another. -/
def answer (service : Service) (c : Circumstances) (request : Request) :
    Answer × Option Connection × List Log.Record :=
  let path := Url.shownPath request.path
  let plain := fun (response : Response) => (⟨some response, []⟩, service.database, [])
  match dispatch request.method request.path with
  | .notFound => plain (plainDetail 404 "Not Found")
  | .methodNotAllowed allowed =>
    plain { plainDetail 405 "Method Not Allowed" with headers := [("allow", allowed)] }
  | .redirect target =>
    plain { status := 307, headers := [("location", Url.escape (request.site ++ Url.ofPath target))] }
  | .found endpoint =>
    match if endpoint.takesBody then readBody (request.body.getD []) else .ok none with
    | .error fault => (.ofBodyFault path fault, service.database, [])
    | .ok body => runEndpoint service c path endpoint body

def respond (service : Service) (c : Circumstances) (request : Request) : Reply :=
  let path := Url.shownPath request.path
  let (answer, database, log) := answer service c request
  let unforeseen : Reply :=
    ⟨unforeseenResponse, database, log ++ answer.log ++ [unforeseenRecord path]⟩
  match answer.response with
  | none => unforeseen
  | some response =>
    if response.isSendable then
      let headers := response.headers ++ originHeader service.allowedOrigins request
      ⟨{ response with headers }, database, log ++ answer.log⟩
    else unforeseen

end AnchorRegistry.Http
