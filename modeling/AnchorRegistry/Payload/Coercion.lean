import AnchorRegistry.Json.Value
import AnchorRegistry.Double.Decimal

/-! From JSON values to the types of fields. A text is taken only from a string; a number also from a
boolean or a numeral in a string; a whole number from a double without a fraction. What cannot be taken
is an `Issue`, with a word for programs and a sentence for people. -/

namespace AnchorRegistry.Payload

inductive Issue where
  | missing
  | notAnObject
  | notAText
  | notAWhole
  | unreadableWhole
  | fractionalWhole
  | oversizedWhole
  | notFinite
  | notANumber
  | unreadableNumber
  | notABool
  | unreadableBool
  | unencodable
  | notAList
  | unknownField
  | malformed
deriving DecidableEq

namespace Issue

def kind : Issue → Text
  | missing => "missing"
  | notAnObject => "model_attributes_type"
  | notAText => "string_type"
  | notAWhole => "int_type"
  | unreadableWhole => "int_parsing"
  | fractionalWhole => "int_from_float"
  | oversizedWhole => "int_parsing_size"
  | notFinite => "finite_number"
  | notANumber => "float_type"
  | unreadableNumber => "float_parsing"
  | notABool => "bool_type"
  | unreadableBool => "bool_parsing"
  | unencodable => "string_unicode"
  | notAList => "list_type"
  | unknownField => "extra_forbidden"
  | malformed => "json_invalid"

def message : Issue → Text
  | missing => "Field required"
  | notAnObject => "Input should be a valid dictionary or object to extract fields from"
  | notAText => "Input should be a valid string"
  | notAWhole => "Input should be a valid integer"
  | unreadableWhole => "Input should be a valid integer, unable to parse string as an integer"
  | fractionalWhole => "Input should be a valid integer, got a number with a fractional part"
  | oversizedWhole => "Unable to parse input string as an integer, exceeded maximum size"
  | notFinite => "Input should be a finite number"
  | notANumber => "Input should be a valid number"
  | unreadableNumber => "Input should be a valid number, unable to parse string as a number"
  | notABool => "Input should be a valid boolean"
  | unreadableBool => "Input should be a valid boolean, unable to interpret input"
  | unencodable => "Input should be a valid string, unable to parse raw data as a unicode string"
  | notAList => "Input should be a valid list"
  | unknownField => "Extra inputs are not permitted"
  | malformed => "JSON decode error"

end Issue

/-- An issue and the path to the value it is about. -/
structure Detail where
  path : List Text
  issue : Issue
deriving DecidableEq

/-- How a JSON value becomes a field. -/
abbrev Coercion (α : Type) := Json → Except Issue α

def text : Coercion Text
  | .string t => .ok t
  | _ => .error .notAText

/-- Reads what a text spells; one with a surrogate spells nothing. -/
def spelled {α : Type} (read : Text → Except Issue α) (t : Text) : Except Issue α :=
  if t.Storable then read t else .error .unencodable

/-- A double must be whole and lie strictly between the ends of the 64-bit range. -/
def wholeOfDouble (d : Double) : Except Issue Int :=
  if !d.isFinite then .error .notFinite
  else
    match d.whole? with
    | none => .error .fractionalWhole
    | some n => if -Nat.pow 2 63 < n ∧ n < Nat.pow 2 63 then .ok n else .error .oversizedWhole

def wholeOfText (t : Text) : Except Issue Int :=
  match Text.readWhole t with
  | .ok n => .ok n
  | .error .unreadable => .error .unreadableWhole
  | .error .oversized => .error .oversizedWhole

def whole : Coercion Int
  | .bool b => .ok (if b then 1 else 0)
  | .int n => .ok n
  | .double d => wholeOfDouble d
  | .string t => spelled wholeOfText t
  | _ => .error .notAWhole

def numberOfText (t : Text) : Except Issue Double :=
  match Double.readPayload? t with
  | some d => .ok d
  | none => .error .unreadableNumber

def number : Coercion Double
  | .bool b => .ok (if b then .one else .zero)
  | .int n =>
    match Double.ofInt? n with
    | some d => .ok d
    | none => .error .notANumber
  | .double d => .ok d
  | .string t => spelled numberOfText t
  | _ => .error .notANumber

/-- A number can be meant for a truth value if it fits into 64 bits, and is one if it is one or zero. -/
def truthOfInt (n : Int) : Except Issue Bool :=
  if n = 1 then .ok true
  else if n = 0 then .ok false
  else if -Nat.pow 2 63 ≤ n ∧ n < Nat.pow 2 63 then .error .unreadableBool
  else .error .notABool

def truthOfText (t : Text) : Except Issue Bool :=
  match Text.readTruth? t with
  | some b => .ok b
  | none => .error .unreadableBool

/-- A truth value: one of the words in either case of letter, or a number that is one or zero. -/
def truth : Coercion Bool
  | .bool b => .ok b
  | .string t => spelled truthOfText t
  | .int n => truthOfInt n
  | .double d =>
    match wholeOfDouble d with
    | .ok n => truthOfInt n
    | .error _ => .error .notABool
  | _ => .error .notABool

end AnchorRegistry.Payload
