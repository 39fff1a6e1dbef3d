import AnchorRegistry.Text.Basic

/-! Routes. The table is searched in order and the first route that fits the path and the method answers.
If only the path fits, the first route that fits it names the method it allows; if nothing fits, the path
with a slash added or removed at the end is tried, and a fit there is a redirect. A parameter is one
nonempty segment, so `/anchors/account/assets` is the account `assets`. The table has the routes of the
service itself; the pages that document it have routes of their own, which are left out. -/

namespace AnchorRegistry.Http

/-- What a request can ask for. -/
inductive Endpoint where
  | health
  | ready
  | listAnchors
  | createAnchor
  | anchorByAccount (accountReference : Text)
  | anchorById (id : Text)
  | updateMetrics (id : Text)
  | listAssets (id : Text)
  | createAsset (id : Text)
deriving DecidableEq

/-- A segment of a route's path. -/
inductive Segment where
  | literal (t : Text)
  | parameter
deriving DecidableEq

/-- A route; `endpoint` is given the segment that the parameter stands for. -/
structure Route where
  method : Text
  path : List Segment
  endpoint : Text → Endpoint

open Segment in
def routes : List Route :=
  [⟨"GET", [literal "health"], fun _ => .health⟩,
    ⟨"GET", [literal "health", literal "ready"], fun _ => .ready⟩,
    ⟨"GET", [literal "anchors"], fun _ => .listAnchors⟩,
    ⟨"POST", [literal "anchors"], fun _ => .createAnchor⟩,
    ⟨"GET", [literal "anchors", literal "account", parameter], .anchorByAccount⟩,
    ⟨"GET", [literal "anchors", parameter], .anchorById⟩,
    ⟨"PUT", [literal "anchors", parameter, literal "metrics"], .updateMetrics⟩,
    ⟨"GET", [literal "anchors", parameter, literal "assets"], .listAssets⟩,
    ⟨"POST", [literal "anchors", parameter, literal "assets"], .createAsset⟩]

/-- The segments of a path that begins with a slash. -/
def segments? (path : Text) : Option (List Text) :=
  match path with
  | c :: rest => if c = '/' then some (rest.splitOn '/') else none
  | [] => none

/-- What the parameter of a pattern stands for in a path, if the path fits; empty where there is no
parameter. A line break after a literal at the end does not count. -/
def matchSegments? : List Segment → List Text → Option Text
  | [], [] => some []
  | [.literal t], [segment] => if segment = t ∨ segment = t ++ ("\n" : Text) then some [] else none
  | .literal t :: pattern, segment :: segments =>
    if segment = t then matchSegments? pattern segments else none
  | .parameter :: pattern, segment :: segments =>
    if segment = [] then none else (matchSegments? pattern segments).map fun _ => segment
  | _, _ => none

/-- The method that a route allows and what it leads to, if it fits a path. -/
def Route.fit? (route : Route) (path : Text) : Option (Text × Endpoint) :=
  ((segments? path).bind (matchSegments? route.path)).map fun parameter =>
    (route.method, route.endpoint parameter)

/-- The routes that fit a path, in order. -/
def fitting (path : Text) : List (Text × Endpoint) := routes.filterMap fun route => route.fit? path

inductive Dispatch where
  | found (endpoint : Endpoint)
  | methodNotAllowed (allowed : Text)
  | redirect (path : Text)
  | notFound
deriving DecidableEq

/-- A path without the slashes at its end, or with one if it has none. -/
def toggleSlash (path : Text) : Text :=
  if path.getLast? = some ('/' : CodePoint) then
    (path.reverse.dropWhile fun c => c = ('/' : CodePoint)).reverse
  else path ++ ("/" : Text)

/-- Where a request leads among the routes of the service. Here nothing is found under the paths of the pages
that document it, `/docs`, `/redoc` and `/openapi.json`, which are answered without any of these routes. -/
def dispatch (method path : Text) : Dispatch :=
  match (fitting path).find? fun (allowed, _) => allowed = method with
  | some (_, endpoint) => .found endpoint
  | none =>
    match fitting path with
    | (allowed, _) :: _ => .methodNotAllowed allowed
    | [] =>
      if path ≠ ("/" : Text) ∧ fitting (toggleSlash path) ≠ [] then .redirect (toggleSlash path)
      else .notFound

end AnchorRegistry.Http
