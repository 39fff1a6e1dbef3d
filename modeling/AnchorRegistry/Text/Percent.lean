import AnchorRegistry.Text.Digit
import AnchorRegistry.Text.Encoding

/-! Percent escapes and form fields. An escape is a percent sign and two hexadecimal digits and stands for a
byte; `unescape` reads the bytes between two characters beyond ASCII as UTF-8. `formFields` splits a query
into its named values. -/

namespace AnchorRegistry.Text

/-- What a place in an escaped text stands for. -/
inductive Escaped where
  | byte (n : Nat)
  | beyondAscii (c : CodePoint)

def Escaped.ofCodePoint (c : CodePoint) : Escaped :=
  if c.value < 0x80 then .byte c.value else .beyondAscii c

/-- A percent sign that begins no escape stands for itself. -/
def readEscapes : Text → List Escaped
  | c :: high :: low :: rest =>
    match high.hexValue?, low.hexValue? with
    | some h, some l =>
      if c = '%' then .byte (h * 16 + l) :: readEscapes rest
      else .ofCodePoint c :: readEscapes (high :: low :: rest)
    | _, _ => .ofCodePoint c :: readEscapes (high :: low :: rest)
  | c :: rest => .ofCodePoint c :: readEscapes rest
  | [] => []

def spell : Option Utf8.Unfinished → List Escaped → Text
  | u, [] => Utf8.finish u
  | u, .byte n :: rest =>
    let (t, u) := Utf8.step u n
    t ++ spell u rest
  | u, .beyondAscii c :: rest => Utf8.finish u ++ c :: spell none rest

def unescape (t : Text) : Text := spell none (readEscapes t)

/-- A name or a value of a form, where a plus is a space. -/
def unescapeField (t : Text) : Text :=
  unescape (t.map fun (c : CodePoint) => if c = '+' then ' ' else c)

/-- The fields of a query: names and values with an equals sign between them, and ampersands between the
fields. A name without a value is no field. -/
def formFields (t : Text) : List (Text × Text) :=
  (t.splitOn '&').filterMap fun field =>
    let name := field.takeWhile fun c => c != ('=' : CodePoint)
    let value := field.drop (name.length + 1)
    if value = [] then none else some (unescapeField name, unescapeField value)

end AnchorRegistry.Text
