import AnchorRegistry.Settings

/-! The configuration of a migration: where the scripts are and which database they are run against. In a value as
it is written a percent sign begins a reference to another option, `%(name)s`, or is doubled to stand for itself;
`isValid` says which values may be written, and `expand` reads one back. The folder of the scripts is written as it
is, the URL of the database with its percent signs doubled, so that it reads back as it was. A configuration that
names no database is run against that of the settings. -/

namespace AnchorRegistry.Migration

namespace Interpolation

def percent : CodePoint := '%'

/-- Doubles every percent sign. -/
def escape (t : Text) : Text := t.flatMap fun c => if c = percent then [percent, percent] else [c]

inductive ExpandError where
  | strayPercent (rest : Text)
  | badReference (rest : Text)
  | unknownOption (name : Text)
  | tooDeep
deriving DecidableEq

/-- Reads a reference after its percent sign: the name, and how many code points the reference takes. -/
def readReference? (t : Text) : Option (Text × Nat) :=
  match t with
  | c :: rest =>
    let name := rest.takeWhile fun c => c != (')' : CodePoint)
    if c = '(' ∧ name ≠ [] ∧ (")s" : Text).isPrefixOf (rest.drop name.length) then
      some (name, name.length + 3)
    else none
  | [] => none

/-- Removes references; `skip` counts the code points of one that are still to be passed over. -/
def dropReferences : (skip : Nat) → Text → Text
  | _, [] => []
  | skip + 1, _ :: rest => dropReferences skip rest
  | 0, c :: rest =>
    if c = percent then
      match readReference? rest with
      | some (_, taken) => dropReferences taken rest
      | none => c :: dropReferences 0 rest
    else c :: dropReferences 0 rest

/-- Whether a value may be written: no percent sign is left when doubled ones and references are removed. -/
def isValid (t : Text) : Bool := !(dropReferences 0 (Text.removeAll "%%" t)).contains percent

/-- Reads a value, in which `resolve` gives what a reference stands for. -/
def expandWith (resolve : Text → Except ExpandError Text) : (skip : Nat) → Text → Except ExpandError Text
  | _, [] => .ok []
  | skip + 1, _ :: rest => expandWith resolve skip rest
  | 0, c :: rest =>
    if c = percent then
      match rest with
      | [] => .error (.strayPercent (c :: rest))
      | next :: _ =>
        if next = percent then (expandWith resolve 1 rest).map (percent :: ·)
        else if next = '(' then
          match readReference? rest with
          | none => .error (.badReference (c :: rest))
          | some (name, taken) =>
            match resolve name, expandWith resolve taken rest with
            | .ok value, .ok tail => .ok (value ++ tail)
            | .error e, _ => .error e
            | _, .error e => .error e
        else .error (.strayPercent (c :: rest))
    else (expandWith resolve 0 rest).map (c :: ·)

/-- Reads a value among options; references may be nested up to a depth. -/
def expand (options : List (Text × Text)) : (depth : Nat) → Text → Except ExpandError Text
  | 0, _ => .error .tooDeep
  | depth + 1, t =>
    expandWith (fun name =>
      match lastValue? name.lowerAscii options with
      | none => .error (.unknownOption name)
      | some value => if value.contains percent then expand options depth value else .ok value) 0 t

/-- How deep references may be nested. -/
def maxDepth : Nat := 10

end Interpolation

open Interpolation

/-- The options as they are written. -/
structure Config where
  options : List (Text × Text)
deriving DecidableEq

namespace Config

def scriptsOption : Text := "script_location"

def urlOption : Text := "sqlalchemy.url"

/-- The folder of the scripts within the package. -/
def scripts : Text := "migrations"

/-- Writes an option, unless its value may not be written. -/
def set? (config : Config) (name value : Text) : Option Config :=
  if isValid value then some ⟨config.options ++ [(name, value)]⟩ else none

def get (config : Config) (name : Text) : Except ExpandError Text :=
  match lastValue? name config.options with
  | none => .error (.unknownOption name)
  | some value => expand config.options maxDepth value

/-- The configuration for scripts in a folder and a database. -/
def ofParts? (folder url : Text) : Option Config :=
  ((⟨[]⟩ : Config).set? scriptsOption folder).bind fun config => config.set? urlOption (escape url)

/-- The configuration for a database. -/
def ofUrl? (url : Text) : Option Config := ofParts? scripts url

/-- The database that migrations are run against. -/
def database (config : Config) (settings : Settings) : Except ExpandError Text :=
  match lastValue? urlOption config.options with
  | none => .ok settings.databaseUrl
  | some _ => (config.get urlOption).map fun url => if url = [] then settings.databaseUrl else url

end Config

end AnchorRegistry.Migration
