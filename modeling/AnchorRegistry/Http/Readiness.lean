import AnchorRegistry.Http.Rendering
import AnchorRegistry.Session

/-! Readiness: the database answers, and both tables are there. The first check asks for nothing, the
second for the rows of either table; each runs in a session of its own. A failure that the session has
classified means not ready. A broken connection below the store counts for the first check only, and any
other failure escapes. -/

namespace AnchorRegistry.Http

open AnchorRegistry.Action

def remark (level : Log.Level) (source : Log.Source) (message : Text) : Action Unit :=
  log { level, source := source.name, message }

/-- Whether the database answers at all. -/
def databaseAnswers : Action Bool := fun s =>
  let failed : Action Bool := do
    remark .error .database "DB health check failed"
    return false
  match inSession (execute fun _ => .ok ()) s with
  | (.ok _, s) => (.ok true, s)
  | (.error (.service _), s) => failed s
  | (.error (.unforeseen (.os _)), s) => failed s
  | (.error failure, s) => (.error failure, s)

/-- Whether both tables can be read. -/
def schemaPresent : Action Bool := fun s =>
  let probe : Action Unit := do
    let _ ← execute fun store => store.selectAnchors fun _ => true
    let _ ← execute fun store => store.selectAssets fun _ => true
  match inSession probe s with
  | (.ok _, s) => (.ok true, s)
  | (.error (.service _), s) =>
    (do remark .error .database "DB schema check failed"; return false : Action Bool) s
  | (.error failure, s) => (.error failure, s)

def readiness : Action Response := do
  if ← databaseAnswers then
    if ← schemaPresent then return readyResponse
    else
      remark .warning .health "Readiness check failed: anchor schema missing"
      return notReadyResponse "schema_missing"
  else
    remark .warning .health "Readiness check failed: database unavailable"
    return notReadyResponse "database_unavailable"

/-- The same where no database was ever opened. -/
def unopened : Response × List Log.Record :=
  (notReadyResponse "database_unavailable",
    [{ level := .warning, source := Log.Source.health.name,
       message := "Readiness check failed: database unavailable" }])

end AnchorRegistry.Http
