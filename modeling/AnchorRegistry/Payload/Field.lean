import AnchorRegistry.Payload.Coercion

/-! Fields of a payload. A field has a name and a wire name, either of which may be its key; the wire
name wins when both are present. What an object says about a field is an `Entry`: absent, null, or a
value, and these three stay apart because an update merges only what was supplied. -/

namespace AnchorRegistry.Payload

/-- The two keys of a field. -/
structure Key where
  name : Text
  wireName : Text
deriving DecidableEq

inductive Entry (α : Type) where
  | absent
  | null
  | given (value : α)
deriving DecidableEq

namespace Entry

variable {α β : Type}

def value? : Entry α → Option α
  | given value => some value
  | _ => none

def isSupplied : Entry α → Bool
  | absent => false
  | _ => true

def map (f : α → β) : Entry α → Entry β
  | absent => absent
  | null => null
  | given value => given (f value)

/-- The value, or `old` where none was given. -/
def getD (entry : Entry α) (old : α) : α := entry.value?.getD old

end Entry

/-- The key that an object uses for a field and the value under it. -/
def effective? (key : Key) (members : List (Text × Json)) : Option (Text × Json) :=
  match lastValue? key.wireName members with
  | some value => some (key.wireName, value)
  | none => (lastValue? key.name members).map fun value => (key.name, value)

/-- The outcome of reading: a value, or everything that was wrong, in the order of the fields. -/
inductive Checked (α : Type) where
  | accepted (value : α)
  | rejected (details : List Detail)
deriving DecidableEq

namespace Checked

variable {α β : Type}

def map (f : α → β) : Checked α → Checked β
  | accepted value => accepted (f value)
  | rejected details => rejected details

/-- Reads two things, and collects what is wrong with either. -/
def seq : Checked (α → β) → Checked α → Checked β
  | accepted f, accepted value => accepted (f value)
  | accepted _, rejected details => rejected details
  | rejected details, accepted _ => rejected details
  | rejected first, rejected second => rejected (first ++ second)

instance : Applicative Checked where
  pure := accepted
  map := map
  seq f x := seq f (x ())

/-- A coercion of the value found under a path. -/
def ofCoercion (path : List Text) (coerce : Coercion α) (value : Json) : Checked α :=
  match coerce value with
  | .ok a => accepted a
  | .error issue => rejected [⟨path, issue⟩]

/-- What is wrong, seen from further out. -/
def under (step : Text) : Checked α → Checked α
  | accepted value => accepted value
  | rejected details => rejected (details.map fun detail => ⟨step :: detail.path, detail.issue⟩)

end Checked

/-- Reads a field that must be there. -/
def required {α : Type} (coerce : Coercion α) (key : Key) (members : List (Text × Json)) : Checked α :=
  match effective? key members with
  | none => .rejected [⟨[key.wireName], .missing⟩]
  | some (used, value) => .ofCoercion [used] coerce value

/-- Reads a field that may be absent or null. -/
def optional {α : Type} (coerce : Coercion α) (key : Key) (members : List (Text × Json)) :
    Checked (Entry α) :=
  match effective? key members with
  | none => .accepted .absent
  | some (_, .null) => .accepted .null
  | some (used, value) => (Checked.ofCoercion [used] coerce value).map .given

end AnchorRegistry.Payload
