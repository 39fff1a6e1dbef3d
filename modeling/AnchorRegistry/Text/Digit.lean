import AnchorRegistry.Text.Basic

/-! Digits. `decimalValue?` is the Unicode property Decimal_Number: the digits of every script stand
in runs of ten, in order, and `decimalZeros` lists where a run begins. `hexValue?` adds the ASCII
letters. Rendering uses ASCII digits only. -/

namespace AnchorRegistry

namespace CodePoint

/-- The code points that are a digit zero. -/
def decimalZeros : List Nat :=
  [0x30, 0x660, 0x6F0, 0x7C0, 0x966, 0x9E6, 0xA66, 0xAE6, 0xB66, 0xBE6, 0xC66, 0xCE6, 0xD66, 0xDE6,
    0xE50, 0xED0, 0xF20, 0x1040, 0x1090, 0x17E0, 0x1810, 0x1946, 0x19D0, 0x1A80, 0x1A90, 0x1B50,
    0x1BB0, 0x1C40, 0x1C50, 0xA620, 0xA8D0, 0xA900, 0xA9D0, 0xA9F0, 0xAA50, 0xABF0, 0xFF10, 0x104A0,
    0x10D30, 0x11066, 0x110F0, 0x11136, 0x111D0, 0x112F0, 0x11450, 0x114D0, 0x11650, 0x116C0, 0x11730,
    0x118E0, 0x11950, 0x11C50, 0x11D50, 0x11DA0, 0x16A60, 0x16AC0, 0x16B50, 0x1D7CE, 0x1D7D8, 0x1D7E2,
    0x1D7EC, 0x1D7F6, 0x1E140, 0x1E2F0, 0x1E950, 0x1FBF0]

def decimalValue? (c : CodePoint) : Option Nat :=
  (decimalZeros.find? fun first => c.within first (first + 9)).map (c.value - ·)

def asciiDigit? (c : CodePoint) : Option Nat :=
  if c.within '0'.toNat '9'.toNat then some (c.value - '0'.toNat) else none

def isAsciiDigit (c : CodePoint) : Bool := c.within '0'.toNat '9'.toNat

/-- The value of an ASCII hexadecimal digit of either case. -/
def hexValue? (c : CodePoint) : Option Nat :=
  if c.within '0'.toNat '9'.toNat then some (c.value - '0'.toNat)
  else if c.within 'a'.toNat 'f'.toNat then some (c.value - 'a'.toNat + 10)
  else if c.within 'A'.toNat 'F'.toNat then some (c.value - 'A'.toNat + 10)
  else none

/-- The lower-case digit of a value below sixteen. -/
def ofDigit (value : Nat) : CodePoint :=
  if value % 16 < 10 then ⟨'0'.toNat + value % 16, by have : '0'.toNat = 48 := rfl; omega⟩
  else ⟨'a'.toNat + (value % 16 - 10), by have : 'a'.toNat = 97 := rfl; omega⟩

end CodePoint

namespace Text

/-- The last `width` hexadecimal digits of a number. -/
def ofHex : (width : Nat) → Nat → Text
  | 0, _ => []
  | width + 1, n => ofHex width (n / 16) ++ [CodePoint.ofDigit n]

/-- The number that a list of digit values denotes, most significant first. -/
def ofDigits (base : Nat) (digits : List Nat) : Nat :=
  digits.foldl (fun total digit => total * base + digit) 0

def ofNatIn (base n : Nat) : Text := (Nat.toDigits base n).map CodePoint.ofChar

def ofNat (n : Nat) : Text := ofNatIn 10 n

def ofInt : Int → Text
  | .ofNat n => ofNat n
  | .negSucc n => ('-' : CodePoint) :: ofNat (n + 1)

end Text

end AnchorRegistry
