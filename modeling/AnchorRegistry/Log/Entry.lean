import AnchorRegistry.Log.Record
import AnchorRegistry.Log.Template

/-! Entries. An entry is what is handed to the log: a template with its arguments, and attributes by name. Of the
attributes a record keeps those with a name that is known, as they are shown; one that is null counts as not set,
and of several with one name the last one counts. -/

namespace AnchorRegistry.Log

structure Entry where
  level : Level
  source : Text
  template : Text
  arguments : List Argument := []
  attributes : List (Text × Argument) := []
  /-- The description of a failure that the entry reports. -/
  exception : Option Text := none
deriving DecidableEq

namespace Entry

/-- What an attribute is shown as, if it is set. -/
def attribute? (e : Entry) (name : Text) : Option Text :=
  match lastValue? name e.attributes with
  | none | some .nothing => none
  | some value => some value.shown

def extras (e : Entry) : Extras where
  anchorId := e.attribute? "anchor_id"
  accountReference := e.attribute? "account_reference"
  errorCode := e.attribute? "error_code"
  path := e.attribute? "path"
  operation := e.attribute? "operation"

def message (e : Entry) : Except TemplateError Text := fillTemplate e.template e.arguments

def record (e : Entry) (message : Text) : Record where
  level := e.level
  source := e.source
  message
  extras := e.extras

/-- The line of the entry, unless its template cannot be filled. -/
def line (e : Entry) (now : Instant) : Except TemplateError Text :=
  e.message.map fun message => (e.record message).line now e.exception

end Entry

end AnchorRegistry.Log
