import AnchorRegistry.Failure
import AnchorRegistry.Row

/-! The store: two tables, either of which may be missing, and whether account references must be unique.
A statement on a missing table is an operational fault. A new row must have a fresh identifier; an anchor
also a fresh account reference where those are unique, and an asset an existing owner; otherwise the
statement is an integrity fault. A text with a surrogate cannot be written or asked for at all.

Rows are found under the identifiers they were stored with. This too takes for granted that identifiers
come back as they went in, so a store here stands for one on SQLite only as long as no identifier consists
of decimal digits, with or without one `e` among them.

A statement that binds texts looks for its table when it is prepared and binds after that. One that was
prepared before binds first, so that of a lost table and a text without an encoding it meets the text. -/

namespace AnchorRegistry

structure Store where
  anchorTable : Option (List Anchor)
  assetTable : Option (List Asset)
  uniqueAccounts : Bool
deriving DecidableEq

/-- What a statement gives: a value, or why it failed. -/
abbrev Attempt (α : Type) := Except Failure α

namespace Store

/-- Both tables, without rows. -/
def fresh : Store := ⟨some [], some [], true⟩

/-- Both tables, without rows and without a rule for account references. -/
def freshWithoutUnique : Store := ⟨some [], some [], false⟩

/-- No tables. -/
def blank : Store := ⟨none, none, true⟩

def dropTables (store : Store) : Store := { store with anchorTable := none, assetTable := none }

/-- The rows of a table. -/
def rows {α : Type} : Option (List α) → Attempt (List α)
  | some rows => .ok rows
  | none => .error (.storage .operational)

/-- Refuses the first text that has no encoding. -/
def encodable (texts : List Text) : Attempt Unit :=
  match texts.find? fun t => !decide t.Storable with
  | some t => .error (.unforeseen (.unencodable t))
  | none => .ok ()

/-- The rows of the table that a statement is about, with its texts bound to it. -/
def boundRows {α : Type} (prepared : Bool) (table : Option (List α)) (texts : List Text) :
    Attempt (List α) :=
  if prepared then do
    encodable texts
    rows table
  else do
    let found ← rows table
    encodable texts
    return found

/-- On a table that is there both orders come to the same. -/
@[simp] theorem boundRows_some {α : Type} (prepared : Bool) (found : List α) (texts : List Text) :
    boundRows prepared (some found) texts = (encodable texts).map fun _ => found := by
  unfold boundRows rows
  cases prepared <;> cases encodable texts <;> rfl

def selectAnchors (store : Store) (p : Anchor → Bool) : Attempt (List Anchor) :=
  (rows store.anchorTable).map fun anchors => anchors.filter p

def selectAssets (store : Store) (p : Asset → Bool) : Attempt (List Asset) :=
  (rows store.assetTable).map fun assets => assets.filter p

def selectByAccount (store : Store) (prepared : Bool) (accountReference : Text) :
    Attempt (List Anchor) := do
  let anchors ← boundRows prepared store.anchorTable [accountReference]
  return anchors.filter fun a => a.accountReference = accountReference

/-- Whether a row with these keys can join the anchors. -/
def admitsAnchor (uniqueAccounts : Bool) (anchors : List Anchor) (row : Anchor) : Bool :=
  anchors.all fun a =>
    a.id ≠ row.id && !(uniqueAccounts && a.accountReference = row.accountReference)

def insertAnchor (store : Store) (prepared : Bool) (row : Anchor) : Attempt Store := do
  let anchors ← boundRows prepared store.anchorTable row.texts
  if admitsAnchor store.uniqueAccounts anchors row then
    return { store with anchorTable := some (anchors ++ [row.stored]) }
  else .error (.storage .integrity)

/-- Writes a row over the one with its identifier. -/
def updateAnchor (store : Store) (row : Anchor) : Attempt Store := do
  let anchors ← rows store.anchorTable
  return { store with
    anchorTable := some (anchors.map fun a => if a.id = row.id then row.stored else a) }

/-- Whether an asset is new among the assets and owned by one of the anchors. -/
def admitsAsset (anchors : List Anchor) (assets : List Asset) (row : Asset) : Bool :=
  assets.all (fun a => a.id ≠ row.id) && anchors.any fun a => a.id = row.anchorId

def insertAsset (store : Store) (prepared : Bool) (row : Asset) : Attempt Store := do
  let assets ← boundRows prepared store.assetTable row.texts
  let anchors ← rows store.anchorTable
  if admitsAsset anchors assets row then
    return { store with assetTable := some (assets ++ [row.stored]) }
  else .error (.storage .integrity)

end Store

end AnchorRegistry
