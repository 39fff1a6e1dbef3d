import AnchorRegistry.Text.Basic

/-! Texts as bytes. `utf8` writes the usual encoding, and `Utf8.step` reads it byte by byte and puts a
replacement character where the bytes are no text. `decodeJson?` reads the bytes of a JSON document,
whose encoding shows in where its first bytes are zero, because a document begins with an ASCII character:
UTF-8 if none is, and otherwise UTF-16 or UTF-32 of one byte order or the other. -/

namespace AnchorRegistry.Text

/-- The bytes of a code point in UTF-8. -/
def utf8CodePoint (c : CodePoint) : List Nat :=
  let n := c.value
  let tail := fun (shift : Nat) => 0x80 + n / Nat.pow 2 shift % 0x40
  if n < 0x80 then [n]
  else if n < 0x800 then [0xC0 + n / 0x40, tail 0]
  else if n < 0x10000 then [0xE0 + n / 0x1000, tail 6, tail 0]
  else [0xF0 + n / 0x40000, tail 12, tail 6, tail 0]

def utf8 (t : Text) : List Nat := t.flatMap utf8CodePoint

/-- The text that has one code point for each byte. -/
def ofBytes (bytes : List Nat) : Text := bytes.filterMap CodePoint.ofNat?

namespace Utf8

/-- A code point of which some bytes were read: its value so far, how many bytes are owed, and the range
that the next one must be in. -/
structure Unfinished where
  value : Nat
  owed : Nat
  low : Nat := 0x80
  high : Nat := 0xBF

def replacement : CodePoint := '\uFFFD'

/-- Reads the first byte of a code point. The ranges leave out surrogates, values past the last code point
and spellings that are longer than they need to be. -/
def start (byte : Nat) : Text × Option Unfinished :=
  if byte < 0x80 then ((CodePoint.ofNat? byte).toList, none)
  else if 0xC2 ≤ byte ∧ byte ≤ 0xDF then ([], some { value := byte - 0xC0, owed := 1 })
  else if byte = 0xE0 then ([], some { value := 0, owed := 2, low := 0xA0 })
  else if byte = 0xED then ([], some { value := 0xD, owed := 2, high := 0x9F })
  else if 0xE1 ≤ byte ∧ byte ≤ 0xEF then ([], some { value := byte - 0xE0, owed := 2 })
  else if byte = 0xF0 then ([], some { value := 0, owed := 3, low := 0x90 })
  else if byte = 0xF4 then ([], some { value := 4, owed := 3, high := 0x8F })
  else if 0xF1 ≤ byte ∧ byte ≤ 0xF3 then ([], some { value := byte - 0xF0, owed := 3 })
  else ([replacement], none)

/-- Reads a byte. One that does not continue an unfinished code point is the first of another. -/
def step : Option Unfinished → Nat → Text × Option Unfinished
  | none, byte => start byte
  | some u, byte =>
    if byte < u.low ∨ u.high < byte then
      let (t, next) := start byte
      (replacement :: t, next)
    else
      let value := u.value * 0x40 + byte % 0x40
      if u.owed ≤ 1 then ((CodePoint.ofNat? value).toList, none)
      else ([], some { value, owed := u.owed - 1 })

/-- What is left of a code point when no byte follows. -/
def finish (u : Option Unfinished) : Text := if u.isSome then [replacement] else []

end Utf8

/-- Numbers of two bytes each; a byte left over is no number. -/
def units16? (bigEndian : Bool) : List Nat → Option (List Nat)
  | [] => some []
  | a :: b :: rest =>
    (units16? bigEndian rest).map ((if bigEndian then a * 256 + b else b * 256 + a) :: ·)
  | _ => none

/-- Joins surrogate pairs and keeps lone surrogates. -/
def ofUnits16 : List Nat → Text
  | [] => []
  | unit :: rest =>
    match CodePoint.ofNat? unit with
    | none => ofUnits16 rest
    | some high =>
      match rest with
      | next :: more =>
        match CodePoint.ofNat? next with
        | some low =>
          if high.isHighSurrogate && low.isLowSurrogate then
            high.joinSurrogates low :: ofUnits16 more
          else high :: ofUnits16 (next :: more)
        | none => high :: ofUnits16 (next :: more)
      | [] => [high]

/-- Numbers of four bytes each, which must be code points. -/
def ofBytes32? (bigEndian : Bool) : List Nat → Option Text
  | [] => some []
  | a :: b :: c :: d :: rest =>
    let digits := if bigEndian then [a, b, c, d] else [d, c, b, a]
    match CodePoint.ofNat? (digits.foldl (fun n byte => n * 256 + byte) 0), ofBytes32? bigEndian rest with
    | some c, some t => some (c :: t)
    | _, _ => none
  | _ => none

/-- The text that a JSON document holds when its bytes are the UTF-8 of `t`. A byte order mark in front
is not part of it. -/
def decodeJson? (t : Text) : Option Text :=
  let bytes := utf8 t
  let utf16 := fun bigEndian => (units16? bigEndian bytes).map ofUnits16
  let utf32 := fun bigEndian => ofBytes32? bigEndian bytes
  match bytes with
  | 0 :: 0 :: _ :: _ :: _ => utf32 true
  | 0 :: _ :: _ :: _ :: _ => utf16 true
  | _ :: 0 :: 0 :: 0 :: _ => utf32 false
  | _ :: 0 :: _ :: _ :: _ => utf16 false
  | [0, _] => utf16 true
  | [_, 0] => utf16 false
  | _ => some (if t.head?.any fun c => c.value = 0xFEFF then t.drop 1 else t)

end AnchorRegistry.Text
