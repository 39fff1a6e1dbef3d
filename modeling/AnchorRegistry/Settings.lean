import AnchorRegistry.DatabaseUrl.Basic
import AnchorRegistry.Json.Reader
import AnchorRegistry.Payload.Field
import AnchorRegistry.Settings.Lookup

/-! Settings of the process. Each has a default, may be set by a variable of the environment and may be
overridden; `Lookup` says how names are compared. The list of origins is JSON in the environment; all other
variables are plain texts. A database URL that names no driver is made to name the asynchronous one. -/

namespace AnchorRegistry

structure Settings where
  databaseUrl : Text := "sqlite+aiosqlite:///stellar_insights.db"
  databasePoolSize : Int := 20
  databaseMaxOverflow : Int := 10
  runMigrations : Bool := true
  serverHost : Text := "127.0.0.1"
  serverPort : Int := 8080
  corsOrigins : List Text := ["*"]
  logLevel : Text := "INFO"
  logFormat : Text := "json"
deriving DecidableEq

namespace Settings

open Payload

/-- The names of the settings. -/
def names : List Text :=
  ["database_url", "database_pool_size", "database_max_overflow", "run_migrations", "server_host",
    "server_port", "cors_origins", "log_level", "log_format"]

inductive LoadError where
  | invalid (details : List Detail)
  | unusableNames
  | unreadableOrigins
  | tooDeepOrigins (kind : Text)
deriving DecidableEq

/-- A report of the error, one line for each setting that is wrong. -/
def LoadError.lines : LoadError → List Text
  | .invalid details =>
    details.map fun detail => Text.join "." detail.path ++ (": " : Text) ++ detail.issue.message
  | .unusableNames =>
    ["error getting value for field \"database_url\" from source \"EnvSettingsSource\""]
  | .unreadableOrigins =>
    ["error parsing value for field \"cors_origins\" from source \"EnvSettingsSource\""]
  | .tooDeepOrigins kind => [(Json.Defect.tooDeep kind).message]

/-- A list of texts; what is wrong with an item is reported under its index. -/
def textList (path : List Text) : Json → Checked (List Text)
  | .array items => go 0 items
  | _ => .rejected [⟨path, .notAList⟩]
where
  go (index : Nat) : List Json → Checked (List Text)
    | [] => .accepted []
    | item :: rest =>
      List.cons <$> .ofCoercion (path ++ [Text.ofNat index]) text item <*> go (index + 1) rest

/-- Reads the value under a name, or takes the default. -/
def field {α : Type} (values : List (Text × Json)) (name : Text) (default : α)
    (read : List Text → Json → Checked α) : Checked α :=
  match lastValue? name values with
  | none => .accepted default
  | some value => read [name] value

def coerced {α : Type} (coerce : Coercion α) (path : List Text) (value : Json) : Checked α :=
  .ofCoercion path coerce value

def urlOf (path : List Text) (value : Json) : Checked Text :=
  (coerced text path value).map DatabaseUrl.toAsync

/-- The values that override settings, under the settings' names. Of several for one setting the first
counts. -/
def known (lookup : Lookup) (overrides : List (Text × Json)) : List (Text × Json) :=
  names.filterMap fun name =>
    (overrides.find? fun (key, _) => lookup.fold key = name).map fun (_, value) => (name, value)

/-- Names that are neither a setting nor a direction. -/
def unknown (lookup : Lookup) (overrides : List (Text × Json)) : Checked Unit :=
  match overrides.filter fun (key, _) =>
    !Lookup.isDirection key && !names.contains (lookup.fold key) with
  | [] => .accepted ()
  | extra => .rejected (extra.map fun (key, _) => ⟨[key], .unknownField⟩)

/-- The settings that values by name give. -/
def ofValues (values : List (Text × Json)) : Checked Settings :=
  let defaults : Settings := {}
  Settings.mk <$> field values "database_url" defaults.databaseUrl urlOf <*>
    field values "database_pool_size" defaults.databasePoolSize (coerced whole) <*>
    field values "database_max_overflow" defaults.databaseMaxOverflow (coerced whole) <*>
    field values "run_migrations" defaults.runMigrations (coerced truth) <*>
    field values "server_host" defaults.serverHost (coerced text) <*>
    field values "server_port" defaults.serverPort (coerced whole) <*>
    field values "cors_origins" defaults.corsOrigins textList <*>
    field values "log_level" defaults.logLevel (coerced text) <*>
    field values "log_format" defaults.logFormat (coerced text)

/-- How deep the values in the list of origins may be nested. -/
def maxOriginsDepth : Nat := 984

/-- The list of origins that a text spells. -/
def readOrigins? (t : Text) : Except LoadError (Option Json) :=
  match Json.read t maxOriginsDepth with
  | .ok .null => .ok none
  | .ok json => .ok (some json)
  | .error ⟨.tooDeep kind, _⟩ => .error (.tooDeepOrigins kind)
  | .error _ => .error .unreadableOrigins

/-- What the environment sets the origins to: JSON, where `null` sets nothing, or else what its parts make
up together. -/
def originsOf (lookup : Lookup) (environment : List (Text × Text)) : Except LoadError (Option Json) :=
  match lookup.text? environment "cors_origins" with
  | some t => if lookup.nullText = some t then .ok (some .null) else readOrigins? t
  | none =>
    match lookup.parts environment "cors_origins" with
    | [] => .ok none
    | parts => .ok (some (.object parts))

/-- What the environment sets a setting to. -/
def ofVariable? (lookup : Lookup) (environment : List (Text × Text)) (name : Text) :
    Except LoadError (Option (Text × Json)) :=
  if name = ("cors_origins" : Text) then
    (originsOf lookup environment).map fun value => value.map fun json => (name, json)
  else
    .ok ((lookup.text? environment name).map fun t =>
      (name, if lookup.nullText = some t then .null else .string t))

/-- Loads the settings. An override wins over the environment, but the environment is read all the same. -/
def load (environment : List (Text × Text)) (overrides : List (Text × Json)) :
    Except LoadError Settings := do
  let some lookup := Lookup.ofOverrides? overrides | .error .unusableNames
  let fromEnvironment ← names.mapM (ofVariable? lookup environment)
  let settings := ofValues (fromEnvironment.filterMap id ++ known lookup overrides)
  match (fun settings () => settings) <$> settings <*> unknown lookup overrides with
  | .accepted settings => .ok settings
  | .rejected details => .error (.invalid details)

/-- What the process asks of the server that runs the service. -/
structure Launch where
  application : Text
  host : Text
  port : Int
deriving DecidableEq

/-- The server keeps its hands off the log, which the service sets up itself. -/
def launch (settings : Settings) : Launch :=
  ⟨"anchor_service.main:app", settings.serverHost, settings.serverPort⟩

def Launch.toJson (launch : Launch) : Json :=
  .object [("app", .string launch.application), ("host", .string launch.host),
    ("port", .int launch.port), ("log_config", .null)]

end Settings

end AnchorRegistry
