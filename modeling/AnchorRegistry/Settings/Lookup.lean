import AnchorRegistry.Json.Value

/-! How the variables of the environment are looked up. By default a setting's variable has the name of the
setting in either case of letter. Directions among the overrides change that for one load: they have names
of their own, which begin with an underscore, and one that is null leaves its rule as it is. -/

namespace AnchorRegistry

/-- Whether a value counts as true: it is not null, false, zero or empty. -/
def Json.counts : Json → Bool
  | .null => false
  | .bool b => b
  | .int n => n != 0
  | .double d => d.signedUnits? != some 0
  | .string t => t != []
  | .array items => !items.isEmpty
  | .object members => !members.isEmpty

namespace Settings

structure Lookup where
  /-- Whether names must be spelled in lower case, as the settings' own are. -/
  caseSensitive : Bool := false
  /-- What every variable's name begins with. -/
  opening : Text := []
  /-- Whether a variable without text counts as not set. -/
  ignoresEmpty : Bool := false
  /-- The text of a variable that sets null. -/
  nullText : Option Text := none
  /-- What stands between the name of a list's variable and the name of one part of it. -/
  partMark : Text := []

namespace Lookup

/-- The names of all directions. Most are about sources that the settings do not have, and change
nothing. -/
def directions : List Text :=
  ["_case_sensitive", "_nested_model_default_partial_update", "_env_prefix", "_env_prefix_target",
    "_env_file", "_env_file_encoding", "_env_ignore_empty", "_env_nested_delimiter",
    "_env_nested_max_split", "_env_parse_none_str", "_env_parse_enums", "_cli_prog_name",
    "_cli_parse_args", "_cli_settings_source", "_cli_parse_none_str", "_cli_hide_none_type",
    "_cli_avoid_json", "_cli_enforce_required", "_cli_use_class_docs_for_groups",
    "_cli_exit_on_error", "_cli_prefix", "_cli_flag_prefix_char", "_cli_implicit_flags",
    "_cli_ignore_unknown_args", "_cli_kebab_case", "_cli_shortcuts", "_secrets_dir",
    "_build_sources"]

def isDirection (name : Text) : Bool := directions.contains name

/-- Whether an opening is meant for the settings' variables, and not only for other names they may have. -/
def isForVariables : Json → Bool
  | .null => true
  | .string target => target = ("variable" : Text) || target = ("all" : Text)
  | _ => false

/-- What the names of variables are to begin with, if that is a text. -/
def opening? (target opening : Json) : Option Text :=
  if isForVariables target then
    match opening with
    | .null => some []
    | .string t => some t
    | _ => none
  else some []

/-- The lookup that the directions among overrides ask for. -/
def ofOverrides? (overrides : List (Text × Json)) : Option Lookup :=
  let value := fun (name : Text) => (lastValue? name overrides).getD .null
  let text? := fun (name : Text) =>
    match value name with
    | .string t => some t
    | _ => none
  (opening? (value "_env_prefix_target") (value "_env_prefix")).map fun opening =>
    { caseSensitive := (value "_case_sensitive").counts
      opening
      ignoresEmpty := (value "_env_ignore_empty").counts
      nullText := text? "_env_parse_none_str"
      partMark := (text? "_env_nested_delimiter").getD [] }

/-- A name as it is compared. -/
def fold (lookup : Lookup) (name : Text) : Text :=
  if lookup.caseSensitive then name else name.lowerAscii

/-- The name of a setting's variable. -/
def nameOf (lookup : Lookup) (setting : Text) : Text := lookup.fold (lookup.opening ++ setting)

/-- The variables that count as set, by their compared names. -/
def visible (lookup : Lookup) (environment : List (Text × Text)) : List (Text × Text) :=
  (environment.filter fun (_, t) => !(lookup.ignoresEmpty && t == [])).map fun (name, t) =>
    (lookup.fold name, t)

/-- The text that the environment gives to a setting; of several variables the last one counts. -/
def text? (lookup : Lookup) (environment : List (Text × Text)) (setting : Text) : Option Text :=
  lastValue? (lookup.nameOf setting) (lookup.visible environment)

/-- The parts that the environment gives to a setting, by their names. -/
def parts (lookup : Lookup) (environment : List (Text × Text)) (setting : Text) :
    List (Text × Json) :=
  if lookup.partMark = [] then []
  else
    (lookup.visible environment).filterMap fun (name, t) =>
      (name.dropPrefix? (lookup.nameOf setting ++ lookup.partMark)).map fun part => (part, .string t)

end Lookup

end Settings

end AnchorRegistry
