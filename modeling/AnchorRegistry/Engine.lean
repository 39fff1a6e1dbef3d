import AnchorRegistry.DatabaseUrl.Driver
import AnchorRegistry.DatabaseUrl.Options

/-! The engine behind a database URL: how the database is connected to and how connections are pooled. -/

namespace AnchorRegistry

/-- How many connections are kept, and how many more may be opened for a while. -/
structure PoolSize where
  size : Int
  maxOverflow : Int
deriving DecidableEq

/-- A pool that keeps no number of connections opens any number of them. -/
def PoolSize.effective (pool : PoolSize) : PoolSize :=
  if pool.size = 0 then { pool with maxOverflow := -1 } else pool

/-- How a database is connected to. Only a server has a sized pool, and only its connections grow old. -/
structure Engine where
  backend : Text
  driver : Text
  database : Option Text
  /-- Seconds after which a connection is replaced; -1 is never. -/
  recycle : Int
  pool : Option PoolSize
deriving DecidableEq

namespace Engine

/-- Connections are tested before they are used. -/
def prePing : Bool := true

/-- No plugin is known, so a URL must not ask for one. -/
def ofUrl (t : Text) (pool : PoolSize) : Except DatabaseUrl.UrlError Engine := do
  let url ← DatabaseUrl.parse t
  if url.option "plugin" ≠ [] then throw .unknownPlugin
  let driver ← url.driver
  url.checkOptions
  if !driver.isAsync then throw .notAsync
  let isFile := url.backend = ("sqlite" : Text)
  return {
    backend := url.backend
    driver := driver.name
    database := url.database
    recycle := if isFile then -1 else 3600
    pool := if isFile then none else some pool.effective }

end Engine

end AnchorRegistry
