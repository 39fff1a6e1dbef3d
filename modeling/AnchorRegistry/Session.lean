import AnchorRegistry.Connection
import AnchorRegistry.Log.Record
import AnchorRegistry.Violation

/-! Sessions. An `Action` runs against one session: it sees the store, the time and the identifier that a
new row would get, counts its calls to the store and logs, all on one connection. A session may carry one
planned fault, which makes one numbered call fail instead of running. A failed action leaves the store as
its last successful commit left it, and every commit writes all of its change or nothing.

Faults of the store are classified in two places: `guarded` turns one into an unavailable store and names
the operation that met it, and `inSession`, around a whole session, turns what is still unclassified into a
broken invariant or an unavailable store. -/

namespace AnchorRegistry

/-- The two kinds of call to the store. -/
inductive Call where
  | execute
  | commit
deriving DecidableEq

/-- A planned fault: which call fails, counted from one, and how. -/
structure Fault where
  call : Call
  nth : Nat
  failure : Failure
deriving DecidableEq

structure Session extends Connection where
  now : Instant
  freshId : EntityId
  fault : Option Fault := none
  executes : Nat := 0
  commits : Nat := 0
  log : List Log.Record := []
deriving DecidableEq

namespace Session

/-- How many calls of a kind were made. -/
def calls (s : Session) : Call → Nat
  | .execute => s.executes
  | .commit => s.commits

def count (s : Session) : Call → Session
  | .execute => { s with executes := s.executes + 1 }
  | .commit => { s with commits := s.commits + 1 }

/-- The failure planned for the last call of a kind. -/
def planned? (s : Session) (call : Call) : Option Failure :=
  match s.fault with
  | some fault => if fault.call = call ∧ fault.nth = s.calls call then some fault.failure else none
  | none => none

end Session

abbrev Action (α : Type) := ExceptT Failure (StateM Session) α

namespace Action

variable {α β : Type}

/-- A sequence goes on from the session that its first part leaves, or stops with its failure. -/
theorem bind_apply (act : Action α) (next : α → Action β) (s : Session) :
    (act >>= next) s =
      match act s with
      | (.ok a, s) => next a s
      | (.error failure, s) => (.error failure, s) := by
  change ExceptT.bindCont next (act s).1 (act s).2 = _
  rcases act s with ⟨_ | _, _⟩ <;> rfl

theorem map_apply (f : α → β) (act : Action α) (s : Session) :
    (f <$> act) s =
      match act s with
      | (.ok a, s) => (.ok (f a), s)
      | (.error failure, s) => (.error failure, s) := by
  rw [map_eq_pure_bind, bind_apply]
  rfl

/-- Makes a call, unless a fault is planned for it. -/
def calling (call : Call) (act : Action α) : Action α := fun s =>
  let s := s.count call
  match s.planned? call with
  | some failure => (.error failure, s)
  | none => act s

/-- Runs a statement that binds texts, told whether the connection had prepared it. -/
def binding (statement : Statement) (act : Bool → Action α) : Action α := fun s =>
  act (s.isPrepared statement) { s with toConnection := s.prepare statement }

def query (select : Store → Attempt α) : Action α := fun s => (select s.store, s)

def write (update : Store → Attempt Store) : Action Unit := fun s =>
  match update s.store with
  | .ok store => (.ok (), { s with store := store })
  | .error failure => (.error failure, s)

/-- Reads from the store. -/
def execute (select : Store → Attempt α) : Action α := calling .execute (query select)

/-- Reads from the store by a statement that binds texts. -/
def executeBinding (statement : Statement) (select : Bool → Store → Attempt α) : Action α :=
  calling .execute (binding statement fun prepared => query (select prepared))

/-- Writes to the store. -/
def commit (update : Store → Attempt Store) : Action Unit := calling .commit (write update)

/-- Writes to the store by a statement that binds texts. -/
def commitBinding (statement : Statement) (update : Bool → Store → Attempt Store) : Action Unit :=
  calling .commit (binding statement fun prepared => write (update prepared))

def log (r : Log.Record) : Action Unit := fun s => (.ok (), { s with log := s.log ++ [r] })

def now : Action Instant := fun s => (.ok s.now, s)

def freshId : Action EntityId := fun s => (.ok s.freshId, s)

/-- Fails with a classified error that is about the given entities. -/
def fail (cause : Cause) (anchorId accountReference : Option Text := none) : Action α := fun s =>
  (.error (.service ⟨cause, ⟨s.now, anchorId, accountReference⟩⟩), s)

/-- Fails if a check found a violation. -/
def refuse (violation : Option Violation) (anchorId : Option Text := none) : Action Unit :=
  match violation with
  | some v => fail (.invalidInput v.message v.field?) anchorId
  | none => pure ()

/-- Does something else where the store rejects a write for its integrity. -/
def onIntegrity (act : Action α) (other : Action α) : Action α := fun s =>
  match act s with
  | (.error (.storage .integrity), s) => other s
  | outcome => outcome

/-- A fault of the store inside `act` becomes an unavailable store under the operation's name. -/
def guarded (operation : Text) (act : Action α) : Action α := fun s =>
  match act s with
  | (.error (.storage _), s) =>
    (do
      log { level := .error, source := Log.Source.repository.name,
            message := ("Storage failure during " : Text) ++ operation,
            extras := { operation := some operation } }
      fail (.storageUnavailable "Storage operation failed" operation) : Action α) s
  | outcome => outcome

end Action

namespace StorageFault

/-- What becomes of a fault that leaves a session unclassified. -/
def cause : StorageFault → Cause
  | integrity => .invariantViolation "Integrity constraint violated"
  | operational => .storageUnavailable "Connection or operational error" "execute"
  | programming | driver | data => .storageUnavailable "Database driver error" "query"
  | general => .storageUnavailable "Database operation failed" "unknown"

/-- What is logged of it. -/
def logRecord : StorageFault → Log.Record
  | integrity =>
    { level := .critical, source := Log.Source.database.name, message := "DB integrity error",
      extras := { errorCode := some "INVARIANT_VIOLATION" } }
  | operational =>
    { level := .error, source := Log.Source.database.name, message := "DB operational error" }
  | programming | driver | data =>
    { level := .error, source := Log.Source.database.name, message := "DB driver error" }
  | general => { level := .error, source := Log.Source.database.name, message := "SQLAlchemy error" }

end StorageFault

/-- Whether a session that ends with this failure rolls back before it closes. -/
def Failure.rollsBack : Failure → Bool
  | .service _ | .storage _ => true
  | .unforeseen _ => false

/-- Runs an action as a whole session. -/
def Action.inSession {α : Type} (act : Action α) : Action α := fun s =>
  match act s with
  | (.error (.storage fault), s) => (do log fault.logRecord; fail fault.cause : Action α) s
  | outcome => outcome

end AnchorRegistry
