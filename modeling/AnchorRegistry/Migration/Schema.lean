import AnchorRegistry.Store

/-! The schema of the database and the two ways to create it: the one revision, which also gives columns a
default that the database itself fills in, and direct creation from the definitions of the rows. The two
agree on everything else. -/

namespace AnchorRegistry.Migration

structure Column where
  name : Text
  type : Text
  nullable : Bool := false
  default : Option Text := none
  primaryKey : Bool := false
deriving DecidableEq

/-- A reference from columns to the columns of another table. -/
structure ForeignKey where
  columns : List Text
  table : Text
  referred : List Text
deriving DecidableEq

structure Table where
  name : Text
  columns : List Column
  /-- Names of the constraints with their columns. -/
  unique : List (Text × List Text) := []
  indexes : List (Text × List Text) := []
  foreign : List ForeignKey := []
deriving DecidableEq

/-- Whether columns get defaults from the database. -/
inductive Origin where
  | revision
  | direct
deriving DecidableEq

def Origin.default? (origin : Origin) (value : Text) : Option Text :=
  match origin with
  | .revision => some value
  | .direct => none

def zeroDefault : Text := "'0'"

def clockDefault : Text := "CURRENT_TIMESTAMP"

def times (origin : Origin) : List Column :=
  [{ name := "created_at", type := "DATETIME", default := origin.default? clockDefault },
    { name := "updated_at", type := "DATETIME", default := origin.default? clockDefault }]

def count (origin : Origin) (name : Text) : Column :=
  { name, type := "BIGINT", default := origin.default? zeroDefault }

def anchorTable (origin : Origin) : Table where
  name := "anchors"
  columns :=
    [{ name := "id", type := "NUMERIC", primaryKey := true },
      { name := "account_reference", type := "VARCHAR(56)" },
      { name := "name", type := "VARCHAR(255)" },
      { name := "home_domain", type := "VARCHAR(255)", nullable := true },
      { name := "description", type := "TEXT", nullable := true },
      { name := "trust_score", type := "FLOAT", nullable := true },
      { name := "reliability_score", type := "FLOAT", nullable := true },
      count origin "total_transactions",
      count origin "successful_transactions",
      count origin "failed_transactions",
      { name := "total_volume_usd", type := "FLOAT", default := origin.default? zeroDefault },
      { name := "avg_settlement_time_ms", type := "BIGINT", nullable := true }] ++ times origin
  unique := [("uq_anchors_account_reference", ["account_reference"])]

def assetTable (origin : Origin) : Table where
  name := "assets"
  columns :=
    [{ name := "id", type := "NUMERIC", primaryKey := true },
      { name := "anchor_id", type := "NUMERIC" },
      { name := "code", type := "VARCHAR(12)" },
      { name := "issuer", type := "VARCHAR(56)", nullable := true },
      { name := "total_supply", type := "FLOAT", nullable := true },
      count origin "num_holders"] ++ times origin
  indexes := [("ix_assets_anchor_id", ["anchor_id"])]
  foreign := [⟨["anchor_id"], "anchors", ["id"]⟩]

/-- The tables of a database, and whether the revision is noted as applied. -/
structure Catalog where
  tables : List Table := []
  applied : Bool := false
deriving DecidableEq

namespace Catalog

def has (catalog : Catalog) (name : Text) : Bool := catalog.tables.any fun table => table.name = name

/-- Adds the tables that are not there yet. -/
def createAll (catalog : Catalog) : Catalog :=
  let missing := [anchorTable .direct, assetTable .direct].filter fun table => !catalog.has table.name
  { catalog with tables := catalog.tables ++ missing }

/-- Applies the revision unless it is applied; it fails where one of its tables is already there. -/
def upgrade (catalog : Catalog) : Except StorageFault Catalog :=
  if catalog.applied then .ok catalog
  else if catalog.has "anchors" || catalog.has "assets" then .error .operational
  else .ok ⟨catalog.tables ++ [anchorTable .revision, assetTable .revision], true⟩

/-- Takes the revision back if it is applied. -/
def downgrade (catalog : Catalog) : Catalog :=
  if catalog.applied then
    ⟨catalog.tables.filter fun table =>
      table.name ≠ ("anchors" : Text) && table.name ≠ ("assets" : Text), false⟩
  else catalog

/-- The store that a database with these tables is, before any row. -/
def emptyStore (catalog : Catalog) : Store where
  anchorTable := if catalog.has "anchors" then some [] else none
  assetTable := if catalog.has "assets" then some [] else none
  uniqueAccounts := catalog.tables.any fun table =>
    table.name = ("anchors" : Text) && table.unique.any fun (_, columns) =>
      columns = [("account_reference" : Text)]

theorem emptyStore_createAll : (createAll {}).emptyStore = Store.fresh := by decide

theorem emptyStore_upgrade : (upgrade {}).toOption.map emptyStore = some Store.fresh := by decide

end Catalog

end AnchorRegistry.Migration
