import AnchorRegistry.Migration.Schema
import AnchorRegistry.Proofs.Http.Course

/-! Runs. A step is one call of the repository or one request, each under its own circumstances; a run is any
list of steps on one connection. Whatever a step asks for and whatever fault it meets, the store changes in
one of four ways: not at all, by one registered anchor, by one anchor's merged metrics, or by one asset, and
each of the three writes was checked first. What these changes preserve therefore holds after every run. -/

namespace AnchorRegistry

open Repository (Invocation Rows anchorRow assetRow updatedRow)
open Http (Circumstances)

/-- What a step can do to the store. -/
inductive Store.Change (before : Store) : Store → Prop
  | unchanged : Change before before
  | anchorAdded {prepared : Bool} {p : Payload.NewAnchor} {id : EntityId} {now : Instant} {after : Store}
    (valid : p.violation = none) (written : before.insertAnchor prepared (anchorRow p id now) = .ok after) :
    Change before after
  | metricsMerged {anchor : Anchor} {p : Payload.MetricsUpdate} {now : Instant} {after : Store}
    (member : anchor ∈ before.anchors) (valid : p.violation = none)
    (consistent : (anchor.metrics.merge p).violation = none)
    (written : before.updateAnchor (updatedRow anchor p now) = .ok after) : Change before after
  | assetAdded {prepared : Bool} {p : Payload.NewAsset} {owner id : EntityId} {now : Instant} {after : Store}
    (valid : p.violation = none) (written : before.insertAsset prepared (assetRow p owner id now) = .ok after) :
    Change before after

theorem Repository.Invocation.Returns.change {s : Session} {invocation : Invocation} {rows : Rows} {after : Store}
    (returns : Returns s invocation rows after) : s.store.Change after := by
  cases returns with
  | createAnchor valid written => exact .anchorAdded valid (Session.eq_ok_of_attempt written)
  | updateAnchorMetrics valid old consistent written =>
      exact .metricsMerged old.mem.1 valid consistent (Session.eq_ok_of_attempt written)
  | createAsset valid old written => exact .assetAdded valid (Session.eq_ok_of_attempt written)
  | _ => exact .unchanged

theorem Repository.Invocation.run_change (invocation : Invocation) (c : Circumstances) (connection : Connection) :
    connection.store.Change (invocation.run c connection).2.store := by
  cases ran : invocation.run c connection with
  | mk result after =>
      cases result with
      | ok rows => exact (run_ok ran).change
      | error failure =>
          simp only [(run_error ran).1]
          exact .unchanged

theorem Http.Course.change {c : Circumstances} {connection after : Connection} {request : Http.Request}
    {answer : Http.Answer} (course : Http.Course c connection request answer after) :
    connection.store.Change after.store := by
  cases course with
  | @ran endpoint body invocation result after reaches call unreplaced ran =>
      have changed := invocation.run_change c connection
      rw [ran] at changed
      exact changed
  | readied found kept =>
      rw [kept]
      exact .unchanged
  | _ => exact .unchanged

inductive Step where
  | call (c : Circumstances) (invocation : Invocation)
  | request (c : Circumstances) (allowedOrigins : List Text) (request : Http.Request)

/-- The connection that a step leaves; a request never closes it. -/
def Step.next : Step → Connection → Connection
  | call c invocation, connection => (invocation.run c connection).2
  | request c allowedOrigins asked, connection =>
      (Http.respond ⟨some connection, allowedOrigins⟩ c asked).database.getD connection

theorem Step.next_change (step : Step) (connection : Connection) :
    connection.store.Change (step.next connection).store := by
  cases step with
  | call c invocation => exact invocation.run_change c connection
  | request c origins asked =>
      obtain ⟨after, database, course⟩ := Http.answer_course origins c connection asked
      rw [next, Http.respond_database, database, Option.getD_some]
      exact course.change

/-- The connection that a list of steps leaves. -/
def run (start : Connection) (steps : List Step) : Connection :=
  steps.foldl (fun connection step => step.next connection) start

/-- What every change of a store preserves holds after every run. -/
theorem run_invariant {I : Store → Prop}
    (preserved : ∀ {before after : Store}, I before → before.Change after → I after)
    {start : Connection} (holds : I start.store) (steps : List Step) : I (run start steps).store := by
  induction steps generalizing start with
  | nil => exact holds
  | cons step rest ih => exact ih (preserved holds (step.next_change start))

/-- The store has just been created, directly or by the revision. -/
inductive Store.Created : Store → Prop
  | directly : Created (Migration.Catalog.createAll {}).emptyStore
  | byRevision {catalog : Migration.Catalog} (applied : Migration.Catalog.upgrade {} = .ok catalog) :
    Created catalog.emptyStore

theorem Store.Created.eq_fresh {store : Store} (created : store.Created) : store = fresh := by
  cases created with
  | directly => exact Migration.Catalog.emptyStore_createAll
  | @byRevision catalog applied =>
      have same := Migration.Catalog.emptyStore_upgrade
      rw [applied] at same
      exact Option.some.inj same

/-- No rows, in whatever tables there are. -/
def Store.IsEmpty (store : Store) : Prop := store.anchors = [] ∧ store.assets = []

theorem Store.Created.isEmpty {store : Store} (created : store.Created) : store.IsEmpty := by
  rw [created.eq_fresh]
  exact ⟨rfl, rfl⟩

/-- Some run from an empty store leads to the connection. -/
def Reachable (connection : Connection) : Prop :=
  ∃ (start : Connection) (steps : List Step), start.store.IsEmpty ∧ connection = run start steps

theorem Store.Created.reachable {start : Connection} (created : start.store.Created) (steps : List Step) :
    Reachable (run start steps) := ⟨start, steps, created.isEmpty, rfl⟩

/-- A run leads from a reachable connection to a reachable one. -/
theorem Reachable.run {connection : Connection} (reachable : Reachable connection) (steps : List Step) :
    Reachable (AnchorRegistry.run connection steps) := by
  obtain ⟨start, before, empty, rfl⟩ := reachable
  exact ⟨start, before ++ steps, empty, List.foldl_append.symm⟩

theorem Reachable.call {connection : Connection} (reachable : Reachable connection) (c : Circumstances)
    (invocation : Invocation) : Reachable (invocation.run c connection).2 := reachable.run [.call c invocation]

namespace Sample

/-- A first registration, on tables that were created directly. -/
def start : Connection := { store := (Migration.Catalog.createAll {}).emptyStore }

/-- An identifier with letters among its digits. -/
def anchorId : EntityId := ⟨0xA000000000004000800000000000000C, by decide⟩

def circumstances : Circumstances := { now := ⟨5⟩, freshId := anchorId }

def profile : Payload.NewAnchor where
  accountReference := " GACME "
  name := "Acme"
  homeDomain := .absent
  description := .null

def registration : Invocation := .createAnchor profile

def registered : Connection := run start [.call circumstances registration]

theorem reachable_registered : Reachable registered := Store.Created.reachable .directly _

end Sample

end AnchorRegistry
