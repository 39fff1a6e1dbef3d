import AnchorRegistry.Json.Value
import AnchorRegistry.Timestamp

/-! Failures. A `ServiceError` is a failure that the service has classified: its cause decides the code,
the category, the severity and the status of the answer, and its context says when it arose and which
entity it was about. A `Failure` is anything that can stop an operation: a service error, a fault of the
store that nobody has classified yet, or something unforeseen. An internal error never shows its own
message or code to a caller. -/

namespace AnchorRegistry

inductive Severity where
  | info
  | warning
  | error
  | critical
deriving DecidableEq

def Severity.name : Severity → Text
  | info => "info"
  | warning => "warning"
  | error => "error"
  | critical => "critical"

inductive Category where
  | validation
  | resourceNotFound
  | conflict
  | database
  | internal
deriving DecidableEq

def Category.name : Category → Text
  | validation => "validation"
  | resourceNotFound => "resource_not_found"
  | conflict => "conflict"
  | database => "database"
  | internal => "internal"

inductive Cause where
  | invalidInput (message : Text) (field : Option Text)
  | notFound (resourceType resourceId : Text)
  | conflict (message : Text)
  | storageUnavailable (message operation : Text)
  | invariantViolation (message : Text)
  | other (message code : Text) (category : Category) (severity : Severity) (httpStatus : Int)
deriving DecidableEq

namespace Cause

def message : Cause → Text
  | invalidInput message _ => message
  | notFound resourceType resourceId =>
    resourceType ++ (" '" : Text) ++ resourceId ++ ("' not found" : Text)
  | conflict message => message
  | storageUnavailable message operation =>
    ("Database " : Text) ++ operation ++ (" failed: " : Text) ++ message
  | invariantViolation message => message
  | other message .. => message

def code : Cause → Text
  | invalidInput .. => "INVALID_INPUT"
  | notFound .. => "NOT_FOUND"
  | conflict _ => "CONFLICT"
  | storageUnavailable .. => "STORAGE_UNAVAILABLE"
  | invariantViolation _ => "INVARIANT_VIOLATION"
  | other _ code .. => code

def category : Cause → Category
  | invalidInput .. => .validation
  | notFound .. => .resourceNotFound
  | conflict _ => .conflict
  | storageUnavailable .. => .database
  | invariantViolation _ => .internal
  | other _ _ category .. => category

def severity : Cause → Severity
  | invalidInput .. => .error
  | notFound .. => .error
  | conflict _ => .warning
  | storageUnavailable .. => .critical
  | invariantViolation _ => .critical
  | other _ _ _ severity _ => severity

def httpStatus : Cause → Int
  | invalidInput .. => 400
  | notFound .. => 404
  | conflict _ => 409
  | storageUnavailable .. => 500
  | invariantViolation _ => 500
  | other _ _ _ _ httpStatus => httpStatus

/-- The name under which the cause is logged. -/
def name : Cause → Text
  | invalidInput .. => "InvalidInputError"
  | notFound .. => "NotFoundError"
  | conflict _ => "ConflictError"
  | storageUnavailable .. => "StorageUnavailableError"
  | invariantViolation _ => "InvariantViolationError"
  | other .. => "AnchorServiceError"

/-- Whether the fault lies with the service and not with the caller. -/
def isInternal (cause : Cause) : Bool := 500 ≤ cause.httpStatus

end Cause

/-- When a service error arose and what it was about. -/
structure ErrorContext where
  timestamp : Instant
  anchorId : Option Text := none
  accountReference : Option Text := none
deriving DecidableEq

structure ServiceError where
  cause : Cause
  context : ErrorContext
deriving DecidableEq

/-- What a caller is told of any internal failure. -/
def genericFailureMessage : Text := "An unexpected error occurred"

/-- The code that stands for every internal failure. -/
def internalCode : Text := "INTERNAL_ERROR"

/-- The envelope of an error in a response. -/
def errorEnvelope (code message category severity : Text) (more : List (Text × Json)) : Json :=
  let fields : List (Text × Json) := [("code", .string code), ("message", .string message),
    ("category", .string category), ("severity", .string severity)]
  .object [("error", .object (fields ++ more))]

/-- What a caller sees of a service error. -/
def ServiceError.response (e : ServiceError) : Json :=
  let timestamp : List (Text × Json) := [("timestamp", .string e.context.timestamp.toUtcText)]
  if e.cause.isInternal then
    errorEnvelope internalCode genericFailureMessage Category.internal.name e.cause.severity.name
      timestamp
  else
    errorEnvelope e.cause.code e.cause.message e.cause.category.name e.cause.severity.name timestamp

/-- Faults that a store reports. All but the last come from its driver. -/
inductive StorageFault where
  | operational
  | integrity
  | programming
  | driver
  | data
  | general
deriving DecidableEq

/-- Failures that nobody classifies. -/
inductive Unforeseen where
  | runtime (message : Text)
  | os (message : Text)
  | value (message : Text)
  | unencodable (text : Text)
deriving DecidableEq

inductive Failure where
  | service (error : ServiceError)
  | storage (fault : StorageFault)
  | unforeseen (reason : Unforeseen)
deriving DecidableEq

namespace Unforeseen

/-- The first run of surrogates in a text: its place and the code points of the run. -/
def surrogateRun (t : Text) : Nat × Text :=
  let before := t.takeWhile fun c => !c.isSurrogate
  (before.length, (t.drop before.length).takeWhile CodePoint.isSurrogate)

/-- An unencodable text is described by its first run of surrogates. -/
def message : Unforeseen → Text
  | runtime message | os message | value message => message
  | unencodable t =>
    let (position, run) := surrogateRun t
    let what : Text :=
      match run with
      | [c] =>
        ("character '\\u" : Text) ++ Text.ofHex 4 c.value ++ ("' in position " : Text) ++
          Text.ofNat position
      | _ =>
        ("characters in position " : Text) ++ Text.ofNat position ++ ("-" : Text) ++
          Text.ofNat (position + run.length - 1)
    ("'utf-8' codec can't encode " : Text) ++ what ++ (": surrogates not allowed" : Text)

end Unforeseen

end AnchorRegistry
