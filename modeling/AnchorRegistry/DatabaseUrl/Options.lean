import AnchorRegistry.DatabaseUrl.Basic
import AnchorRegistry.Double.Decimal

/-! Options of a connection. A file database reads six options itself and hands the others on to the file if
`uri` asks for it. A server may be given as several hosts with their ports, in one option of each, with
commas, or in one option for each pair. -/

namespace AnchorRegistry.DatabaseUrl

/-- What an option's value has to spell. -/
inductive OptionKind where
  | truth
  | whole
  | number
  | text
deriving DecidableEq

def OptionKind.fits (value : Text) : OptionKind → Bool
  | truth => (Text.readTruth? value.strip).isSome
  | whole => (Text.readLenient? 10 value).isSome
  | number => (Double.readLenient? value).isSome
  | text => true

/-- Checks an option that may be absent. Numbers must not be repeated. -/
def checkOption (url : DatabaseUrl) (name : Text) (kind : OptionKind) : Except UrlError Unit :=
  match url.option name, kind with
  | [], _ => .ok ()
  | [value], kind => if kind.fits value then .ok () else .error .unreadableOption
  | _, .whole | _, .number => .error .repeatedOption
  | _, .truth | _, .text => .ok ()

/-- The options that a file database reads itself. -/
def fileOptions : List (Text × OptionKind) :=
  [("uri", .truth), ("timeout", .number), ("isolation_level", .text), ("detect_types", .whole),
    ("check_same_thread", .truth), ("cached_statements", .whole)]

/-- Whether the database is named by a URI of its own. Options that are repeated count as set. -/
def isUri (url : DatabaseUrl) : Bool :=
  match url.option "uri" with
  | [] => false
  | [value] => Text.readTruth? value.strip = some true
  | _ => true

/-- Whether there are options that the file database does not read. -/
def handsOn (url : DatabaseUrl) : Bool :=
  url.options.any fun (name, _) => !fileOptions.any fun (known, _) => known = name

def checkFile (url : DatabaseUrl) : Except UrlError Unit := do
  if url.namesServer then throw (if url.isShowable then .serverOfFile else .unshowable)
  fileOptions.forM fun (name, kind) => url.checkOption name kind
  if url.isUri && url.handsOn && url.database = none then throw .optionsOfNoFile

/-- The hosts among the options, and their ports where these stand beside them after a colon. -/
def pairedHosts (url : DatabaseUrl) : Except UrlError (List Text × Option (List Text)) :=
  match url.option "host" with
  | [] => .ok ([], none)
  | [hosts] => .ok (hosts.splitOn ',', none)
  | pairs =>
    let parts := pairs.map fun pair => pair.splitOn ':'
    if parts.all fun part => 2 < part.length then .error .malformedPart
    else .ok (parts.map fun part => part.headD [], some (parts.map fun part => part.getD 1 []))

/-- The hosts with their ports; a port may be absent or empty. -/
def hostPorts (url : DatabaseUrl) : Except UrlError (List Text × List (Option Int)) := do
  let (hosts, paired) ← url.pairedHosts
  let ports : List Text :=
    match url.option "port" with
    | [] => paired.getD []
    | [ports] => ports.splitOn ','
    | ports => ports
  if paired.isSome ∧ url.option "port" ≠ [] then throw .mismatchedHosts
  let numbers := ports.map fun port =>
    if port = [] then some none else (Text.readLenient? 10 port).map some
  if numbers.contains none then throw .mismatchedHosts
  let several := 1 < hosts.length ∨ 1 < ports.length
  if ports ≠ [] ∧ several ∧ hosts.length ≠ ports.length then throw .mismatchedHosts
  return (hosts, numbers.filterMap id)

/-- Several hosts must all be named and have a port other than zero. -/
def checkServer (url : DatabaseUrl) : Except UrlError Unit := do
  let (hosts, ports) ← url.hostPorts
  let complete := ports ≠ [] && ports.all fun port => port.any (· ≠ 0)
  if 1 < hosts.length ∧ (hosts.contains [] || !complete) then throw .mismatchedHosts
  url.checkOption "prepared_statement_cache_size" .whole

/-- Checks what the driver of the database system is given. -/
def checkOptions (url : DatabaseUrl) : Except UrlError Unit :=
  if url.backend = ("sqlite" : Text) then url.checkFile else url.checkServer

end AnchorRegistry.DatabaseUrl
