import AnchorRegistry.Http.Rendering
import AnchorRegistry.Migration.Schema
import AnchorRegistry.Proofs.Effective

/-! Rows under their wire names. In a response a row is an object with one member for each column of its table and
with no other: its key is the name of the column in camel case, and its value is what the row has in that column.
No two columns share a key, whichever way the tables were created, so a look-up under a key finds the one cell. The
columns of each row are listed here with the names they have in the table, apart from the functions that write the
rows. -/

namespace AnchorRegistry

namespace Text

def capitalized (word : Text) : Text := upperAscii (word.take 1) ++ word.drop 1

/-- The words of a name, which underscores part, without the gaps and each but the first with a capital. -/
def camelCase (name : Text) : Text :=
  match splitOn '_' name with
  | [] => []
  | word :: others => word ++ others.flatMap capitalized

end Text

open Text (camelCase)

theorem Metric.camelCase_name (metric : Metric) : camelCase metric.name = metric.wireName := by
  cases metric <;> decide +kernel

namespace Http

/-- The members of a row's object: a member for each column of the table, under the camel case of its name and with
what the row has in it. -/
structure IsRow {Column : Type} (table : Migration.Table) (title : Column → Text) (cell : Column → Json)
    (members : List (Text × Json)) : Prop where
  keys : members.map Prod.fst = table.columns.map fun column => camelCase column.name
  distinct : (members.map Prod.fst).Nodup
  cells : ∀ member, member ∈ members ↔ ∃ column, (camelCase (title column), cell column) = member

section Columns

variable {Column : Type} {table : Migration.Table} {title : Column → Text} {cell : Column → Json}

/-- A list of all columns under their names in the table makes a row. -/
theorem IsRow.ofColumns {columns : List Column} (complete : ∀ column, column ∈ columns)
    (titled : table.columns.map Migration.Column.name = columns.map title)
    (distinct : ((table.columns.map Migration.Column.name).map camelCase).Nodup) :
    IsRow table title cell (columns.map fun column => (camelCase (title column), cell column)) := by
  have keys : (columns.map fun column => (camelCase (title column), cell column)).map Prod.fst =
      (table.columns.map Migration.Column.name).map camelCase := by
    rw [titled, List.map_map, List.map_map]
    rfl
  refine ⟨?_, ?_, fun member => ?_⟩
  · rw [keys, List.map_map]
    rfl
  · rw [keys]
    exact distinct
  · simp only [List.mem_map, complete, true_and]

theorem IsRow.member? {members : List (Text × Json)} (row : IsRow table title cell members) (column : Column) :
    (Json.object members).member? (camelCase (title column)) = some (cell column) :=
  (lastValue?_eq_some_iff row.distinct).2 ((row.cells _).2 ⟨column, rfl⟩)

end Columns

end Http

section Anchor

inductive Anchor.Column where
  | id
  | accountReference
  | name
  | homeDomain
  | description
  | metric (metric : Metric)
  | createdAt
  | updatedAt

namespace Anchor.Column

/-- In the order of the table. -/
def all : List Column :=
  [id, accountReference, name, homeDomain, description] ++ Metric.all.map metric ++ [createdAt, updatedAt]

def title : Column → Text
  | id => "id"
  | accountReference => "account_reference"
  | name => "name"
  | homeDomain => "home_domain"
  | description => "description"
  | metric m => m.name
  | createdAt => "created_at"
  | updatedAt => "updated_at"

theorem mem_all (column : Column) : column ∈ all := by
  cases column with
  | metric m => exact List.mem_append_left _ (List.mem_append_right _ (List.mem_map_of_mem m.mem_all))
  | _ => simp [all]

theorem titles (origin : Migration.Origin) :
    (Migration.anchorTable origin).columns.map Migration.Column.name = all.map title := by
  cases origin <;> rfl

theorem distinct (origin : Migration.Origin) :
    (((Migration.anchorTable origin).columns.map Migration.Column.name).map camelCase).Nodup := by
  cases origin <;> decide +kernel

end Anchor.Column

namespace Http

/-- What an anchor has in a column. -/
def anchorCell (a : Anchor) : Anchor.Column → Json
  | .id => .string a.id.toText
  | .accountReference => .string a.accountReference
  | .name => .string a.name
  | .homeDomain => .ofText? a.homeDomain
  | .description => .ofText? a.description
  | .metric m => wireMetric a.metrics m
  | .createdAt => wireTimestamp a.createdAt
  | .updatedAt => wireTimestamp a.updatedAt

theorem wireAnchor_eq (a : Anchor) : wireAnchor a =
    .object (Anchor.Column.all.map fun column => (camelCase column.title, anchorCell a column)) := by
  have metrics : Metric.all.map (fun metric => (metric.wireName, wireMetric a.metrics metric)) =
      (Metric.all.map Anchor.Column.metric).map fun column => (camelCase column.title, anchorCell a column) := by
    rw [List.map_map]
    exact List.map_congr_left fun metric _ => Prod.ext metric.camelCase_name.symm rfl
  unfold wireAnchor Anchor.Column.all
  rw [metrics, List.map_append, List.map_append]
  rfl

/-- The object of an anchor has the columns of the anchors, each once and no others. -/
theorem wireAnchor_isRow (a : Anchor) (origin : Migration.Origin) : ∃ members, wireAnchor a = .object members ∧
    IsRow (Migration.anchorTable origin) Anchor.Column.title (anchorCell a) members :=
  ⟨_, wireAnchor_eq a, .ofColumns Anchor.Column.mem_all (Anchor.Column.titles origin) (Anchor.Column.distinct origin)⟩

end Http

end Anchor

section Asset

inductive Asset.Column where
  | id
  | anchorId
  | code
  | issuer
  | totalSupply
  | numHolders
  | createdAt
  | updatedAt

namespace Asset.Column

def all : List Column := [id, anchorId, code, issuer, totalSupply, numHolders, createdAt, updatedAt]

def title : Column → Text
  | id => "id"
  | anchorId => "anchor_id"
  | code => "code"
  | issuer => "issuer"
  | totalSupply => "total_supply"
  | numHolders => "num_holders"
  | createdAt => "created_at"
  | updatedAt => "updated_at"

theorem mem_all (column : Column) : column ∈ all := by
  cases column <;> simp [all]

theorem titles (origin : Migration.Origin) :
    (Migration.assetTable origin).columns.map Migration.Column.name = all.map title := by
  cases origin <;> rfl

theorem distinct (origin : Migration.Origin) :
    (((Migration.assetTable origin).columns.map Migration.Column.name).map camelCase).Nodup := by
  cases origin <;> decide +kernel

end Asset.Column

namespace Http

/-- What an asset has in a column. -/
def assetCell (a : Asset) : Asset.Column → Json
  | .id => .string a.id.toText
  | .anchorId => .string a.anchorId.toText
  | .code => .string a.code
  | .issuer => .ofText? a.issuer
  | .totalSupply => ofOptional .double a.totalSupply
  | .numHolders => .int a.numHolders
  | .createdAt => wireTimestamp a.createdAt
  | .updatedAt => wireTimestamp a.updatedAt

theorem wireAsset_eq (a : Asset) : wireAsset a =
    .object (Asset.Column.all.map fun column => (camelCase column.title, assetCell a column)) := rfl

/-- The object of an asset has the columns of the assets, each once and no others. -/
theorem wireAsset_isRow (a : Asset) (origin : Migration.Origin) : ∃ members, wireAsset a = .object members ∧
    IsRow (Migration.assetTable origin) Asset.Column.title (assetCell a) members :=
  ⟨_, wireAsset_eq a, .ofColumns Asset.Column.mem_all (Asset.Column.titles origin) (Asset.Column.distinct origin)⟩

end Http

end Asset

end AnchorRegistry
