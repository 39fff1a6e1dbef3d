import AnchorRegistry.Json.Value

/-! Writing JSON. A `Layout` fixes the separators and whether code points beyond ASCII are escaped.
Quotes, backslashes and everything below U+0020 are always escaped, so no written text holds a control
character and a line break cannot be smuggled into a line of output. -/

namespace AnchorRegistry.Json

structure Layout where
  itemSeparator : Text
  keySeparator : Text
  asciiOnly : Bool

/-- No blanks, ASCII only. -/
def Layout.compact : Layout := ⟨",", ":", true⟩

/-- A blank after each separator, and text kept as it is. -/
def Layout.line : Layout := ⟨", ", ": ", false⟩

/-- An escape of sixteen bits. -/
def escapeUnit (unit : Nat) : Text := ("\\u" : Text) ++ Text.ofHex 4 unit

/-- One escape, or two for a code point above U+FFFF. -/
def escapeCodePoint (c : CodePoint) : Text :=
  if c.value < 0x10000 then escapeUnit c.value
  else
    let offset := c.value - 0x10000
    escapeUnit (0xD800 + offset / 0x400) ++ escapeUnit (0xDC00 + offset % 0x400)

/-- The letter that escapes a character after a backslash, for those that have one. -/
def shortEscape? (c : CodePoint) : Option CodePoint :=
  if c = '"' then some '"'
  else if c = '\\' then some '\\'
  else if c = '\n' then some 'n'
  else if c = '\r' then some 'r'
  else if c = '\t' then some 't'
  else if c.value = 0x08 then some 'b'
  else if c.value = 0x0C then some 'f'
  else none

def escape (asciiOnly : Bool) (c : CodePoint) : Text :=
  match shortEscape? c with
  | some letter => ['\\', letter]
  | none =>
    if c.value < 0x20 then escapeUnit c.value
    else if asciiOnly && 0x7F ≤ c.value then escapeCodePoint c
    else [c]

def writeString (asciiOnly : Bool) (t : Text) : Text :=
  ('"' : CodePoint) :: (t.flatMap (escape asciiOnly) ++ [('"' : CodePoint)])

def writeDouble : Double → Text
  | .nan => "NaN"
  | .infinite negative => if negative then "-Infinity" else "Infinity"
  | d => d.toText

mutual

def write (layout : Layout) : Json → Text
  | null => "null"
  | bool b => if b then "true" else "false"
  | int n => Text.ofInt n
  | double d => writeDouble d
  | string t => writeString layout.asciiOnly t
  | array items => ("[" : Text) ++ writeItems layout items ++ ("]" : Text)
  | object members => ("\x7b" : Text) ++ writeMembers layout members ++ ("\x7d" : Text)

def writeItems (layout : Layout) : List Json → Text
  | [] => []
  | [item] => write layout item
  | item :: rest => write layout item ++ layout.itemSeparator ++ writeItems layout rest

def writeMembers (layout : Layout) : List (Text × Json) → Text
  | [] => []
  | [(key, value)] => writeString layout.asciiOnly key ++ layout.keySeparator ++ write layout value
  | (key, value) :: rest =>
    writeString layout.asciiOnly key ++ layout.keySeparator ++ write layout value ++
      layout.itemSeparator ++ writeMembers layout rest

end

end AnchorRegistry.Json
