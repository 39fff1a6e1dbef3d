/-! Text as the service sees it: a list of Unicode code points, lone surrogates included. A request
body may spell a lone surrogate with an escape, so it has to be a value here even though no store and
no response can hold it; `Text.Storable` says which texts can. Lengths count code points, and equality
is equality of code points.

Three sets of blanks occur: `isSpace`, the Unicode property White_Space, which surrounds numbers in a
payload; `isBlank`, the same set with the four information separators, which is what normalising a stored
text removes; and `isAsciiSpace`, the six spaces of a numeral. -/

namespace AnchorRegistry

structure CodePoint where
  value : Nat
  isLt : value < 0x110000
deriving DecidableEq

namespace CodePoint

def ofChar (char : Char) : CodePoint :=
  ⟨char.val.toNat, by
    have valid := char.valid
    rcases valid with valid | valid <;> simp at valid ⊢ <;> omega⟩

instance : Coe Char CodePoint := ⟨ofChar⟩

instance : Inhabited CodePoint := ⟨'0'⟩

/-- The code point of a number, if there is one. -/
def ofNat? (n : Nat) : Option CodePoint :=
  if h : n < 0x110000 then some ⟨n, h⟩ else none

/-- Whether the code point lies between two numbers, both included. -/
def within (c : CodePoint) (low high : Nat) : Bool :=
  low ≤ c.value && c.value ≤ high

def isHighSurrogate (c : CodePoint) : Bool := c.within 0xD800 0xDBFF

def isLowSurrogate (c : CodePoint) : Bool := c.within 0xDC00 0xDFFF

def isSurrogate (c : CodePoint) : Bool := c.within 0xD800 0xDFFF

/-- The supplementary code point that a high and a low surrogate spell together. -/
def joinSurrogates (high low : CodePoint) : CodePoint :=
  ⟨0x10000 + (high.value % 0x400) * 0x400 + low.value % 0x400, by omega⟩

/-- The Unicode property White_Space. -/
def isSpace (c : CodePoint) : Bool :=
  c.within 0x09 0x0D || c.value == 0x20 || c.value == 0x85 || c.value == 0xA0 ||
    c.value == 0x1680 || c.within 0x2000 0x200A || c.within 0x2028 0x2029 || c.value == 0x202F ||
    c.value == 0x205F || c.value == 0x3000

def isBlank (c : CodePoint) : Bool := c.isSpace || c.within 0x1C 0x1F

def isAsciiSpace (c : CodePoint) : Bool := c.within 0x09 0x0D || c.value == 0x20

theorem isBlank_of_isSpace {c : CodePoint} (h : c.isSpace) : c.isBlank := by
  simp [isBlank, h]

theorem isSpace_of_isAsciiSpace {c : CodePoint} (h : c.isAsciiSpace) : c.isSpace := by
  simp only [isAsciiSpace, Bool.or_eq_true] at h
  rcases h with h | h <;> simp [isSpace, h]

/-- A surrogate has no character and becomes the replacement character. -/
def toChar (c : CodePoint) : Char :=
  if c.isSurrogate then '\uFFFD' else Char.ofNat c.value

end CodePoint

abbrev Text := List CodePoint

namespace Text

def ofString (s : String) : Text := s.toList.map CodePoint.ofChar

instance : Coe String Text := ⟨ofString⟩

def toString (t : Text) : String := String.ofList (t.map CodePoint.toChar)

/-- A text without surrogates; exactly these have an encoding as bytes. -/
def Storable (t : Text) : Prop := ∀ c ∈ t, c.isSurrogate = false

instance (t : Text) : Decidable t.Storable := inferInstanceAs (Decidable (∀ c ∈ t, _))

/-- The text without the code points of `p` at either end. -/
def trimBy (p : CodePoint → Bool) (t : Text) : Text :=
  ((t.dropWhile p).reverse.dropWhile p).reverse

/-- The form in which a text is compared and stored: no blank at either end. -/
def strip (t : Text) : Text := t.trimBy CodePoint.isBlank

/-- A stripped text, or nothing if only blanks were there. -/
def strip? (t : Text) : Option Text := if t.strip = [] then none else some t.strip

/-- Removes every occurrence of `pattern`, from left to right and without overlap. -/
def removeAll (pattern : Text) (t : Text) : Text :=
  go 0 t
where
  /-- The first argument counts the code points of a found occurrence still to be skipped. -/
  go : Nat → Text → Text
    | _, [] => []
    | skip + 1, _ :: rest => go skip rest
    | 0, c :: rest =>
      if pattern.isPrefixOf (c :: rest) then go (pattern.length - 1) rest else c :: go 0 rest

/-- What follows `start`, if the text begins with it. -/
def dropPrefix? (t start : Text) : Option Text :=
  if start.isPrefixOf t then some (t.drop start.length) else none

/-- The pieces between the occurrences of `separator`; never empty. -/
def splitOn (separator : CodePoint) : Text → List Text
  | [] => [[]]
  | c :: rest =>
    if c = separator then [] :: splitOn separator rest
    else
      match splitOn separator rest with
      | [] => [[c]]
      | piece :: pieces => (c :: piece) :: pieces

def join (separator : Text) : List Text → Text
  | [] => []
  | [t] => t
  | t :: rest => t ++ separator ++ join separator rest

/-- Pads on the left up to `width` code points. -/
def padLeft (width : Nat) (filler : CodePoint) (t : Text) : Text :=
  List.replicate (width - t.length) filler ++ t

def padRight (width : Nat) (filler : CodePoint) (t : Text) : Text :=
  t ++ List.replicate (width - t.length) filler

/-- ASCII letters in upper case, all else unchanged. -/
def upperAscii (t : Text) : Text :=
  t.map fun c => if h : c.within 'a'.toNat 'z'.toNat then ⟨c.value - 32, by
    simp [CodePoint.within] at h
    have := c.isLt
    omega⟩ else c

/-- ASCII letters in lower case, all else unchanged. -/
def lowerAscii (t : Text) : Text :=
  t.map fun c => if h : c.within 'A'.toNat 'Z'.toNat then ⟨c.value + 32, by
    simp [CodePoint.within] at h
    omega⟩ else c

end Text

end AnchorRegistry
