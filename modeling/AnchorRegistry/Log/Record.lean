import AnchorRegistry.Json.Writer
import AnchorRegistry.Timestamp

/-! Log records and the line of JSON that one becomes. Client-supplied texts reach a record's message and
extras, so the line escapes every control character: one record is one line, and reading the line back
gives the same texts. -/

namespace AnchorRegistry.Log

/-- A level is a number; five multiples of ten and zero have names. -/
structure Level where
  number : Int
deriving DecidableEq

namespace Level

def info : Level := ⟨20⟩
def warning : Level := ⟨30⟩
def error : Level := ⟨40⟩
def critical : Level := ⟨50⟩

def name (level : Level) : Text :=
  if level.number = 0 then "NOTSET"
  else if level.number = 10 then "DEBUG"
  else if level.number = 20 then "INFO"
  else if level.number = 30 then "WARNING"
  else if level.number = 40 then "ERROR"
  else if level.number = 50 then "CRITICAL"
  else ("Level " : Text) ++ Text.ofInt level.number

end Level

/-- The parts of the service that log. -/
inductive Source where
  | repository
  | database
  | errorHandlers
  | health
deriving DecidableEq

def Source.name : Source → Text
  | .repository => "anchor_service.repositories.anchor_repository"
  | .database => "anchor_service.infrastructure.database"
  | .errorHandlers => "anchor_service.api.error_handlers"
  | .health => "anchor_service.api.routes.health"

/-- What a record may say besides its message. -/
structure Extras where
  anchorId : Option Text := none
  accountReference : Option Text := none
  errorCode : Option Text := none
  path : Option Text := none
  operation : Option Text := none
deriving DecidableEq

/-- The extras that are set, by name, in the order in which a line shows them. -/
def Extras.present (e : Extras) : List (Text × Text) :=
  [("anchor_id", e.anchorId), ("account_reference", e.accountReference),
    ("error_code", e.errorCode), ("path", e.path), ("operation", e.operation)].filterMap
    fun (name, value) => value.map fun t => (Text.ofString name, t)

structure Record where
  level : Level
  source : Text
  message : Text
  extras : Extras := {}
deriving DecidableEq

namespace Record

/-- The members of the line's object; `exception` describes a failure that the record reports. -/
def members (r : Record) (now : Instant) (exception : Option Text) : List (Text × Json) :=
  let fixed : List (Text × Json) :=
    [("timestamp", .string now.toUtcText), ("level", .string r.level.name),
      ("logger", .string r.source), ("message", .string r.message)]
  let extras : List (Text × Json) := r.extras.present.map fun (name, t) => (name, .string t)
  let failure : List (Text × Json) := exception.toList.map fun t => ("exception", .string t)
  fixed ++ extras ++ failure

def line (r : Record) (now : Instant) (exception : Option Text) : Text :=
  (Json.object (r.members now exception)).write .line

end Record

end AnchorRegistry.Log
