import AnchorRegistry.Json.Value
import AnchorRegistry.Double.Decimal

/-! Reading JSON. The grammar is the usual one with the three words `NaN`, `Infinity` and `-Infinity`,
and escapes may spell lone surrogates. Every scanner takes the rest of the text and gives back what is
left; a failure keeps the rest of the text at which it arose, and `read` turns that into a position. Of
several faults the first in reading order counts. -/

namespace AnchorRegistry.Json

/-- What is wrong with a text that is not JSON. -/
inductive Defect where
  | missingValue
  | missingKey
  | missingColon
  | missingComma
  | extraData
  | unterminatedString
  | controlCharacter
  | badEscape
  | badUnicodeEscape
  | byteOrderMark
  | tooManyDigits (count : Nat)
  | tooDeep (kind : Text)
deriving DecidableEq

structure Failure where
  defect : Defect
  rest : Text

/-- The text that follows a scanned value goes with it. -/
abbrev Scan (α : Type) := Except Failure (α × Text)

def isSpace (c : CodePoint) : Bool :=
  c == (' ' : CodePoint) || c == ('\t' : CodePoint) || c == ('\n' : CodePoint) || c == ('\r' : CodePoint)

def skipSpace (t : Text) : Text := t.dropWhile isSpace

/-- The number that four hexadecimal digits denote. -/
def unit? (a b c d : CodePoint) : Option Nat :=
  match a.hexValue?, b.hexValue?, c.hexValue?, d.hexValue? with
  | some a, some b, some c, some d => some (Text.ofDigits 16 [a, b, c, d])
  | _, _, _, _ => none

def unescape? (letter : CodePoint) : Option CodePoint :=
  if letter = '"' ∨ letter = '\\' ∨ letter = '/' then some letter
  else if letter = 'n' then some '\n'
  else if letter = 'r' then some '\r'
  else if letter = 't' then some '\t'
  else if letter = 'b' then some ⟨0x08, by decide⟩
  else if letter = 'f' then some ⟨0x0C, by decide⟩
  else none

/-- The low surrogate that an escape at the front spells, if it spells one. It is looked for only if
something follows the escape. -/
def lowSurrogate? : Text → Except Failure (Option CodePoint)
  | backslash :: u :: a :: b :: c :: d :: next :: rest =>
    if backslash = '\\' ∧ u = 'u' then
      match (unit? a b c d).bind CodePoint.ofNat? with
      | some low => .ok (if low.isLowSurrogate then some low else none)
      | none => .error ⟨.badUnicodeEscape, u :: a :: b :: c :: d :: next :: rest⟩
    else .ok none
  | _ => .ok none

/-- Reads an escape whose backslash is the first of `whole` and is followed by `rest`: the code point it
spells and how many code points after the backslash it takes. `start` is where the string begins. -/
def scanEscape (start whole rest : Text) : Except Failure (CodePoint × Nat) :=
  match rest with
  | [] => .error ⟨.unterminatedString, start⟩
  | letter :: more =>
    if letter = 'u' then
      match more with
      | a :: b :: c :: d :: next :: tail =>
        match (unit? a b c d).bind CodePoint.ofNat? with
        | none => .error ⟨.badUnicodeEscape, letter :: more⟩
        | some unit =>
          if unit.isHighSurrogate then
            match lowSurrogate? (next :: tail) with
            | .error e => .error e
            | .ok (some low) => .ok (unit.joinSurrogates low, 11)
            | .ok none => .ok (unit, 5)
          else .ok (unit, 5)
      | _ => .error ⟨.badUnicodeEscape, letter :: more⟩
    else
      match unescape? letter with
      | some c => .ok (c, 1)
      | none => .error ⟨.badEscape, whole⟩

/-- Adds a code point in front of a scanned text. -/
def prepend (c : CodePoint) : Scan Text → Scan Text
  | .ok (t, rest) => .ok (c :: t, rest)
  | .error e => .error e

/-- Reads a string after its opening quote; `skip` counts the code points of an escape that are still
to be passed over. -/
def scanString (start : Text) : (skip : Nat) → Text → Scan Text
  | _, [] => .error ⟨.unterminatedString, start⟩
  | skip + 1, _ :: rest => scanString start skip rest
  | 0, c :: rest =>
    if c = '"' then .ok ([], rest)
    else if c = '\\' then
      match scanEscape start (c :: rest) rest with
      | .ok (decoded, taken) => prepend decoded (scanString start taken rest)
      | .error e => .error e
    else if c.value < 0x20 then .error ⟨.controlCharacter, c :: rest⟩
    else prepend c (scanString start 0 rest)

/-- The most digits that a whole number may have. -/
def maxWholeDigits : Nat := 4300

/-- The digits and the point of a fraction at the front; a point without a digit after it is left. -/
def splitFraction : Text → Text × Text
  | c :: digit :: rest =>
    if c = '.' ∧ digit.isAsciiDigit then
      (c :: digit :: rest.takeWhile CodePoint.isAsciiDigit, rest.dropWhile CodePoint.isAsciiDigit)
    else ([], c :: digit :: rest)
  | t => ([], t)

/-- An exponent at the front; without a digit it is left. -/
def splitExponent (t : Text) : Text × Text :=
  match t with
  | c :: rest =>
    if c = 'e' ∨ c = 'E' then
      let (sign, digits) :=
        match rest with
        | s :: more => if s = '-' ∨ s = '+' then ([s], more) else ([], rest)
        | [] => ([], [])
      if digits.takeWhile CodePoint.isAsciiDigit = [] then ([], t)
      else (c :: sign ++ digits.takeWhile CodePoint.isAsciiDigit,
        digits.dropWhile CodePoint.isAsciiDigit)
    else ([], t)
  | [] => ([], [])

/-- The digits before a point: a zero alone, or digits that begin with another. -/
def splitWhole (t : Text) : Text × Text :=
  match t with
  | c :: rest =>
    if c = '0' then ([c], rest)
    else (t.takeWhile CodePoint.isAsciiDigit, t.dropWhile CodePoint.isAsciiDigit)
  | [] => ([], [])

/-- Reads a number. One without a fraction and an exponent is a whole number. -/
def scanNumber (t : Text) : Scan Json :=
  let (negative, unsigned) :=
    match t with
    | c :: rest => if c = '-' then (true, rest) else (false, t)
    | [] => (false, [])
  let (whole, afterWhole) := splitWhole unsigned
  let (fraction, afterFraction) := splitFraction afterWhole
  let (exponent, rest) := splitExponent afterFraction
  if whole = [] then .error ⟨.missingValue, t⟩
  else if fraction = [] ∧ exponent = [] then
    if maxWholeDigits < whole.length then .error ⟨.tooManyDigits whole.length, t⟩
    else
      let n := Text.ofDigits 10 (whole.map fun c => c.value - '0'.toNat)
      .ok (.int (Text.applySign negative n), rest)
  else
    match Double.readMagnitude? negative (whole ++ fraction ++ exponent) with
    | some d => .ok (.double d, rest)
    | none => .error ⟨.missingValue, t⟩

/-- The words that are values. -/
def words : List (Text × Json) :=
  [("null", null), ("true", bool true), ("false", bool false), ("NaN", double .nan),
    ("Infinity", double (.infinite false)), ("-Infinity", double (.infinite true))]

/-- A word at the front with its value and what follows. -/
def scanWord? (t : Text) : Option (Json × Text) :=
  words.findSome? fun (word, value) => (t.dropPrefix? word).map fun rest => (value, rest)

/-- How deep the values of a document may be nested: no rule of JSON, but how far an interpreter can descend. -/
def maxDepth : Nat := 990

mutual

/-- Reads one value, in which arrays and objects may be nested `room` deep. Each level of nesting and each
further item takes some fuel, so twice the length of the text is always enough. -/
def scanValue : (fuel room : Nat) → Text → Scan Json
  | 0, _, t => .error ⟨.missingValue, t⟩
  | fuel + 1, room, t =>
    match t with
    | [] => .error ⟨.missingValue, []⟩
    | c :: rest =>
      if c = '"' then
        match scanString t 0 rest with
        | .ok (s, rest) => .ok (.string s, rest)
        | .error e => .error e
      else if room = 0 ∧ c = '{' then .error ⟨.tooDeep "object", t⟩
      else if room = 0 ∧ c = '[' then .error ⟨.tooDeep "array", t⟩
      else if c = '{' then
        match skipSpace rest with
        | [] => .error ⟨.missingKey, []⟩
        | d :: more =>
          if d = '}' then .ok (.object [], more)
          else
            match scanMembers fuel (room - 1) (d :: more) with
            | .ok (members, rest) => .ok (.object members, rest)
            | .error e => .error e
      else if c = '[' then
        match skipSpace rest with
        | [] => .error ⟨.missingValue, []⟩
        | d :: more =>
          if d = ']' then .ok (.array [], more)
          else
            match scanItems fuel (room - 1) (d :: more) with
            | .ok (items, rest) => .ok (.array items, rest)
            | .error e => .error e
      else
        match scanWord? t with
        | some found => .ok found
        | none => scanNumber t

/-- Reads the members of an object up to its closing brace; the text begins with a key. -/
def scanMembers : (fuel room : Nat) → Text → Scan (List (Text × Json))
  | 0, _, t => .error ⟨.missingKey, t⟩
  | fuel + 1, room, t =>
    match t with
    | [] => .error ⟨.missingKey, []⟩
    | c :: rest =>
      if c = '"' then
        match scanString t 0 rest with
        | .error e => .error e
        | .ok (key, afterKey) =>
          match skipSpace afterKey with
          | [] => .error ⟨.missingColon, []⟩
          | colon :: afterColon =>
            if colon = ':' then
              match scanValue fuel room (skipSpace afterColon) with
              | .error e => .error e
              | .ok (value, afterValue) =>
                match skipSpace afterValue with
                | [] => .error ⟨.missingComma, []⟩
                | d :: more =>
                  if d = '}' then .ok ([(key, value)], more)
                  else if d = ',' then
                    match scanMembers fuel room (skipSpace more) with
                    | .ok (members, rest) => .ok ((key, value) :: members, rest)
                    | .error e => .error e
                  else .error ⟨.missingComma, d :: more⟩
            else .error ⟨.missingColon, colon :: afterColon⟩
      else .error ⟨.missingKey, t⟩

/-- Reads the items of an array up to its closing bracket. -/
def scanItems : (fuel room : Nat) → Text → Scan (List Json)
  | 0, _, t => .error ⟨.missingValue, t⟩
  | fuel + 1, room, t =>
    match scanValue fuel room t with
    | .error e => .error e
    | .ok (item, afterItem) =>
      match skipSpace afterItem with
      | [] => .error ⟨.missingComma, []⟩
      | d :: more =>
        if d = ']' then .ok ([item], more)
        else if d = ',' then
          match scanItems fuel room (skipSpace more) with
          | .ok (items, rest) => .ok (item :: items, rest)
          | .error e => .error e
        else .error ⟨.missingComma, d :: more⟩

end

/-- Why a text is not JSON, and the number of code points before the fault. -/
structure ReadError where
  defect : Defect
  position : Nat
deriving DecidableEq

/-- Reads a text that holds one value, nested no deeper than `depth`, and blanks around it. -/
def parse (t : Text) (depth : Nat := maxDepth) : Except ReadError Json :=
  let located := fun (e : Failure) => Except.error ⟨e.defect, t.length - e.rest.length⟩
  match scanValue (2 * t.length + 2) depth (skipSpace t) with
  | .error e => located e
  | .ok (value, afterValue) =>
    match skipSpace afterValue with
    | [] => .ok value
    | rest => located ⟨.extraData, rest⟩

/-- Like `parse`, but a byte order mark in front has a message of its own. -/
def read (t : Text) (depth : Nat := maxDepth) : Except ReadError Json :=
  if t.head?.any fun c => c.value = 0xFEFF then .error ⟨.byteOrderMark, 0⟩ else parse t depth

def Defect.message : Defect → Text
  | .missingValue => "Expecting value"
  | .missingKey => "Expecting property name enclosed in double quotes"
  | .missingColon => "Expecting ':' delimiter"
  | .missingComma => "Expecting ',' delimiter"
  | .extraData => "Extra data"
  | .unterminatedString => "Unterminated string starting at"
  | .controlCharacter => "Invalid control character at"
  | .badEscape => "Invalid \\escape"
  | .badUnicodeEscape => "Invalid \\uXXXX escape"
  | .byteOrderMark => "Unexpected UTF-8 BOM (decode using utf-8-sig)"
  | .tooManyDigits count =>
    ("Exceeds the limit (4300 digits) for integer string conversion: value has " : Text) ++
      Text.ofNat count ++ (" digits; use sys.set_int_max_str_digits() to increase the limit" : Text)
  | .tooDeep kind =>
    ("maximum recursion depth exceeded while decoding a JSON " : Text) ++ kind ++
      (" from a unicode string" : Text)

/-- The message with the line, the column and the position of the fault in the text. -/
def ReadError.message (e : ReadError) (t : Text) : Text :=
  match e.defect with
  | .tooManyDigits _ | .tooDeep _ => e.defect.message
  | _ =>
    let before := t.take e.position
    let line := before.count ('\n' : CodePoint) + 1
    let column := (before.reverse.takeWhile fun c => c != ('\n' : CodePoint)).length + 1
    e.defect.message ++ (": line " : Text) ++ Text.ofNat line ++ (" column " : Text) ++
      Text.ofNat column ++ (" (char " : Text) ++ Text.ofNat e.position ++ (")" : Text)

end AnchorRegistry.Json
