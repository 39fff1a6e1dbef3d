import AnchorRegistry.Store

/-! A connection to a store and the statements that are prepared on it. A statement is prepared when it
first runs while its table is there, and stays so: neither a failure of that run nor the loss of the table
undoes it. -/

namespace AnchorRegistry

/-- The statements that bind texts. -/
inductive Statement where
  | insertAnchor
  | insertAsset
  | selectByAccount
deriving DecidableEq

/-- Whether the table that a statement is about is there. -/
def Store.hasTable (store : Store) : Statement → Bool
  | .insertAnchor | .selectByAccount => store.anchorTable.isSome
  | .insertAsset => store.assetTable.isSome

structure Connection where
  store : Store
  prepared : List Statement := []
deriving DecidableEq

namespace Connection

def isPrepared (c : Connection) (statement : Statement) : Bool := c.prepared.contains statement

/-- The connection after it has tried to prepare a statement. -/
def prepare (c : Connection) (statement : Statement) : Connection :=
  if c.store.hasTable statement && !c.isPrepared statement then
    { c with prepared := statement :: c.prepared }
  else c

@[simp] theorem store_prepare (c : Connection) (statement : Statement) :
    (c.prepare statement).store = c.store := by
  unfold prepare
  split <;> rfl

def dropTables (c : Connection) : Connection := { c with store := c.store.dropTables }

end Connection

end AnchorRegistry
