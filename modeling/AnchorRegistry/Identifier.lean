import AnchorRegistry.Text.Numeral

/-! Identifiers of stored rows: 128 bits, written as 32 lower-case hexadecimal digits in groups of 8, 4,
4, 4 and 12. Reading is lenient: blanks around, the marks `urn:` and `uuid:` anywhere, braces around and
hyphens anywhere are dropped, and the 32 code points that remain are read as a whole number in base
sixteen. A text that does not read names no row. -/

namespace AnchorRegistry

structure EntityId where
  value : Nat
  isLt : value < Nat.pow 2 128
deriving DecidableEq

namespace EntityId

instance : Inhabited EntityId := ⟨⟨0, by decide⟩⟩

/-- The code points that carry the number, without marks, braces and hyphens. -/
def core (raw : Text) : Text :=
  let unmarked := Text.removeAll "uuid:" (Text.removeAll "urn:" raw.strip)
  Text.removeAll "-" (unmarked.trimBy fun c => c = ('\x7b' : CodePoint) || c = ('\x7d' : CodePoint))

def ofNat? (n : Nat) : Option EntityId :=
  if h : n < Nat.pow 2 128 then some ⟨n, h⟩ else none

def parse? (raw : Text) : Option EntityId :=
  if (core raw).length = 32 then
    match Text.readLenient? 16 (core raw) with
    | some (.ofNat n) => ofNat? n
    | _ => none
  else none

/-- The canonical spelling. -/
def toText (id : EntityId) : Text :=
  let digits := Text.ofHex 32 id.value
  Text.join "-" [digits.take 8, (digits.drop 8).take 4, (digits.drop 12).take 4,
    (digits.drop 16).take 4, digits.drop 20]

end EntityId

end AnchorRegistry
