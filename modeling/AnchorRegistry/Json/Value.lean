import AnchorRegistry.Number

/-! JSON values. Whole numbers keep their size and other numbers are doubles; an object keeps every
member that was written, and of several with one key the last one counts. -/

namespace AnchorRegistry

inductive Json where
  | null
  | bool (b : Bool)
  | int (n : Int)
  | double (d : Double)
  | string (t : Text)
  | array (items : List Json)
  | object (members : List (Text × Json))
deriving Inhabited

/-- The last value that a list of pairs gives to a key. -/
def lastValue? {α : Type} (key : Text) : List (Text × α) → Option α
  | [] => none
  | (name, value) :: rest =>
    match lastValue? key rest with
    | some later => some later
    | none => if name = key then some value else none

namespace Json

def ofNumber : Number → Json
  | .int n => int n
  | .double d => double d

/-- A text, or `null` where there is none. -/
def ofText? (t : Option Text) : Json := t.elim null string

def member? (key : Text) : Json → Option Json
  | object members => lastValue? key members
  | _ => none

mutual

/-- Whether every text in the value has an encoding. -/
def storable : Json → Bool
  | string t => decide t.Storable
  | array items => storableItems items
  | object members => storableMembers members
  | _ => true

def storableItems : List Json → Bool
  | [] => true
  | item :: rest => item.storable && storableItems rest

def storableMembers : List (Text × Json) → Bool
  | [] => true
  | (key, value) :: rest => decide key.Storable && value.storable && storableMembers rest

end

end Json

end AnchorRegistry
