import AnchorRegistry.Proofs.History
import AnchorRegistry.Proofs.Http.Rendered
import AnchorRegistry.Proofs.Merge

/-! The events of a run. A step makes at most one call of the repository: a call makes itself, and a request the call
of its endpoint, once its payload is read and unless the operations are replaced. The history of a run has one event
for each call that was made. `Effect` says of a call, with what it came to, what it did to the store: one of the three
writes did just that, and whatever else there was did nothing. What every effect preserves of a store and its history
therefore holds after every run. -/

namespace AnchorRegistry

open Repository (Invocation Rows anchorRow updatedRow assetRow)
open Http (Circumstances Reaches)

/-- The call that a request makes, if it reaches an endpoint with a payload. -/
def Http.Request.call? (request : Http.Request) : Option Invocation :=
  match Http.dispatch request.method request.path with
  | .found endpoint =>
    match if endpoint.takesBody then Http.readBody (request.body.getD []) else .ok none with
    | .ok body =>
      match endpoint.invocation? body with
      | some (.accepted invocation) => some invocation
      | _ => none
    | .error _ => none
  | _ => none

theorem Http.Request.call?_eq_some {request : Http.Request} {invocation : Invocation} :
    request.call? = some invocation ↔
      ∃ endpoint body, Reaches request endpoint body ∧ endpoint.invocation? body = some (.accepted invocation) := by
  constructor
  · intro made
    unfold call? at made
    split at made
    · rename_i endpoint found
      split at made
      · rename_i body read
        split at made
        · rename_i call
          cases made
          exact ⟨endpoint, body, ⟨found, read⟩, call⟩
        · cases made
      · cases made
    · cases made
  · rintro ⟨endpoint, body, ⟨found, read⟩, call⟩
    unfold call?
    simp only [found, read, call]

namespace Step

def circumstances : Step → Circumstances
  | call c _ => c
  | request c _ _ => c

/-- The call of the repository that a step makes, if it makes one. -/
def call? : Step → Option Invocation
  | call _ invocation => some invocation
  | request c _ asked => if c.replacement.isNone then asked.call? else none

/-- What comes of the call of a step. -/
def event? (step : Step) (connection : Connection) : Option Event :=
  step.call?.map fun invocation =>
    ⟨step.circumstances.now, invocation, (invocation.run step.circumstances connection).1⟩

theorem next_of_call {step : Step} {invocation : Invocation} (made : step.call? = some invocation)
    (connection : Connection) : step.next connection = (invocation.run step.circumstances connection).2 := by
  cases step with
  | call c invocation' =>
      cases made
      rfl
  | request c origins asked =>
      rw [call?, Option.ite_none_right_eq_some, Option.isNone_iff_eq_none] at made
      obtain ⟨unreplaced, made⟩ := made
      obtain ⟨endpoint, body, reaches, call⟩ := Http.Request.call?_eq_some.1 made
      rw [next, Http.respond_database, Http.answer_of_reaches connection c origins reaches,
        Http.runEndpoint_accepted origins connection _ call unreplaced]
      rfl

/-- A step without a call changes nothing. -/
theorem store_next_of_idle {step : Step} (idle : step.call? = none) (connection : Connection) :
    (step.next connection).store = connection.store := by
  cases step with
  | call c invocation => cases idle
  | request c origins asked =>
      obtain ⟨after, database, course⟩ := Http.answer_course origins c connection asked
      rw [next, Http.respond_database, database, Option.getD_some]
      generalize (Http.answer ⟨some connection, origins⟩ c asked).1 = answered at course
      cases course with
      | readied found kept => exact kept
      | ran reaches call unreplaced ran =>
          have made := Http.Request.call?_eq_some.2 ⟨_, _, reaches, call⟩
          rw [call?, unreplaced, Option.isNone_none, if_pos rfl, made] at idle
          cases idle
      | _ => rfl

end Step

/-- What came of each call that was made in a run. -/
def history : Connection → List Step → List Event
  | _, [] => []
  | connection, step :: rest => (step.event? connection).toList ++ history (step.next connection) rest

namespace Event

/-- The row that a successful registration returned. -/
def registered? (e : Event) : Option Anchor :=
  match e.invocation, e.outcome with
  | .createAnchor _, .ok (.anchor row) => some row
  | _, _ => none

/-- The row that a successful update returned. -/
def updated? (e : Event) : Option Anchor :=
  match e.invocation, e.outcome with
  | .updateAnchorMetrics _ _, .ok (.anchor row) => some row
  | _, _ => none

/-- The row that a successful call for a new asset returned. -/
def added? (e : Event) : Option Asset :=
  match e.invocation, e.outcome with
  | .createAsset _ _, .ok (.asset row) => some row
  | _, _ => none

/-- The row that was returned by a successful call for a new asset, if it named this anchor. -/
def issued? (owner : EntityId) (e : Event) : Option Asset :=
  match e.invocation, e.outcome with
  | .createAsset raw _, .ok (.asset row) => if EntityId.parse? raw = some owner then some row else none
  | _, _ => none

/-- What an event makes of an anchor that was there: a successful update remeasures the one that it names. -/
def touch (e : Event) (a : Anchor) : Anchor :=
  match e.updated? with
  | some row => if a.id = row.id then a.remeasure row.metrics.stored e.now else a
  | none => a

theorem issued?_of_added? {e : Event} (nothing : e.added? = none) (owner : EntityId) : e.issued? owner = none := by
  unfold added? at nothing
  unfold issued?
  split
  · rename_i call returned
    rw [call, returned] at nothing
    cases nothing
  · rfl

theorem touch_eq_self {e : Event} {a : Anchor} (other : ∀ row, e.updated? = some row → row.id ≠ a.id) :
    e.touch a = a := by
  unfold touch
  cases updated : e.updated? with
  | none => rfl
  | some row => exact if_neg (other row updated).symm

theorem remeasured_touch (e : Event) (a : Anchor) : a.Remeasured (e.touch a) := by
  unfold touch
  cases e.updated? with
  | none => exact a.remeasured_refl
  | some row =>
      dsimp only
      split
      · exact ⟨_, _, rfl⟩
      · exact a.remeasured_refl

@[simp] theorem id_touch (e : Event) (a : Anchor) : (e.touch a).id = a.id := by
  obtain ⟨metrics, updatedAt, same⟩ := e.remeasured_touch a
  rw [same]

end Event

/-- What a call with this outcome does to the store. -/
inductive Store.Effect (before : Store) (c : Circumstances) : Invocation → Except Failure Rows → Store → Prop
  | registered {p : Payload.NewAnchor} {after : Store}
    (joined : before.AnchorJoined (anchorRow p c.freshId c.now) after) :
    Effect before c (.createAnchor p) (.ok (.anchor (anchorRow p c.freshId c.now))) after
  | updated {raw : Text} {p : Payload.MetricsUpdate} {anchor : Anchor} {after : Store}
    (read : EntityId.parse? raw = some anchor.id) (merged : before.Merged anchor p c.now after) :
    Effect before c (.updateAnchorMetrics raw p) (.ok (.anchor (updatedRow anchor p c.now))) after
  | issued {raw : Text} {p : Payload.NewAsset} {owner : EntityId} {after : Store}
    (read : EntityId.parse? raw = some owner)
    (joined : before.AssetJoined (assetRow p owner c.freshId c.now) after) :
    Effect before c (.createAsset raw p) (.ok (.asset (assetRow p owner c.freshId c.now))) after
  | nothing {invocation : Invocation} {outcome : Except Failure Rows}
    (registered : Event.registered? ⟨c.now, invocation, outcome⟩ = none)
    (updated : Event.updated? ⟨c.now, invocation, outcome⟩ = none)
    (added : Event.added? ⟨c.now, invocation, outcome⟩ = none) :
    Effect before c invocation outcome before

theorem Repository.Invocation.run_effect {connection : Connection} (reachable : Reachable connection)
    (invocation : Invocation) (c : Circumstances) :
    connection.store.Effect c invocation (invocation.run c connection).1 (invocation.run c connection).2.store := by
  cases ran : invocation.run c connection with
  | mk result after =>
      cases result with
      | error failure =>
          simp only [(run_error ran).1]
          cases invocation <;> exact .nothing rfl rfl rfl
      | ok rows =>
          have returns := run_ok ran
          simp only
          generalize after.store = store at returns ⊢
          cases returns with
          | createAnchor valid written => exact .registered (Store.anchorJoined (Session.eq_ok_of_attempt written))
          | updateAnchorMetrics valid old consistent written =>
              exact .updated old.mem.2 (Store.merged reachable.legal reachable.settled old.mem.1 valid consistent
                (Session.eq_ok_of_attempt written))
          | createAsset valid old written =>
              exact .issued old.mem.2 (Store.assetJoined (Session.eq_ok_of_attempt written))
          | _ => exact .nothing rfl rfl rfl

section Rows

variable {before after : Store} {c : Circumstances} {invocation : Invocation} {outcome : Except Failure Rows}

/-- The anchors stay in their places, and what a registration returned comes after them. -/
theorem Store.Effect.anchors (effect : before.Effect c invocation outcome after) :
    after.anchors = before.anchors.map (Event.touch ⟨c.now, invocation, outcome⟩) ++
      ((Event.registered? ⟨c.now, invocation, outcome⟩).map Anchor.stored).toList := by
  have untouched (silent : Event.updated? ⟨c.now, invocation, outcome⟩ = none) :
      before.anchors.map (Event.touch ⟨c.now, invocation, outcome⟩) = before.anchors := by
    refine (List.map_congr_left fun a _ => Event.touch_eq_self fun row updated => ?_).trans (List.map_id _)
    rw [silent] at updated
    cases updated
  cases effect with
  | registered joined =>
      rw [untouched rfl, joined.anchors]
      rfl
  | updated read merged =>
      rw [merged.written, anchors_alter]
      exact (List.append_nil _).symm
  | issued read joined =>
      rw [untouched rfl, joined.anchors]
      exact (List.append_nil _).symm
  | nothing registered updated added =>
      rw [untouched updated, registered]
      exact (List.append_nil _).symm

/-- The assets stay as they are, and what a call for a new one returned comes after them. -/
theorem Store.Effect.assets (effect : before.Effect c invocation outcome after) :
    after.assets = before.assets ++ ((Event.added? ⟨c.now, invocation, outcome⟩).map Asset.stored).toList := by
  cases effect with
  | registered joined =>
      rw [joined.assets]
      exact (List.append_nil _).symm
  | updated read merged =>
      rw [merged.written]
      exact (List.append_nil _).symm
  | issued read joined =>
      rw [joined.assets]
      rfl
  | nothing registered updated added =>
      rw [added]
      exact (List.append_nil _).symm

end Rows

section Invariant

variable {I : Store → List Event → Prop}
  (kept : ∀ {before after : Store} {past : List Event} {c : Circumstances} {invocation : Invocation}
    {outcome : Except Failure Rows}, before.Legal → before.Settled → I before past →
      before.Effect c invocation outcome after → I after (past ++ [⟨c.now, invocation, outcome⟩]))
  {start : Connection} (reachable : Reachable start)

include kept reachable

theorem invariant_append_history {past : List Event} (holds : I start.store past) (steps : List Step) :
    I (run start steps).store (past ++ history start steps) := by
  induction steps generalizing start past with
  | nil =>
      rw [history, List.append_nil]
      exact holds
  | cons step rest ih =>
      have onward : Reachable (step.next start) := reachable.run [step]
      rw [history, ← List.append_assoc]
      apply ih onward
      unfold Step.event?
      cases made : step.call? with
      | none =>
          rw [Step.store_next_of_idle made]
          simpa using holds
      | some invocation =>
          rw [Step.next_of_call made]
          exact kept reachable.legal reachable.settled holds (invocation.run_effect reachable _)

/-- What every effect preserves of a store and its history holds after every run. -/
theorem history_invariant (holds : I start.store []) (steps : List Step) :
    I (run start steps).store (history start steps) :=
  invariant_append_history kept reachable holds steps

end Invariant

/-- Every event of a history is what came of one of the steps. -/
theorem exists_step_of_mem_history {start : Connection} {steps : List Step} {e : Event}
    (member : e ∈ history start steps) : ∃ step ∈ steps, ∃ connection, step.event? connection = some e := by
  induction steps generalizing start with
  | nil => cases member
  | cons step rest ih =>
      rw [history, List.mem_append, Option.mem_toList] at member
      rcases member with first | later
      · exact ⟨step, List.mem_cons_self, start, first⟩
      · obtain ⟨step', among, found⟩ := ih later
        exact ⟨step', List.mem_cons_of_mem _ among, found⟩

/-- What the events of ordered steps tell is ordered as the steps are. -/
theorem pairwise_filterMap_history {α : Type} {tell : Event → Option α} {related : α → α → Prop}
    {precedes : Step → Step → Prop}
    (ordered : ∀ {s t : Step} {connection connection' : Connection} {e e' : Event} {a b : α}, precedes s t →
      s.event? connection = some e → tell e = some a → t.event? connection' = some e' → tell e' = some b →
        related a b)
    {steps : List Step} (sorted : steps.Pairwise precedes) (start : Connection) :
    ((history start steps).filterMap tell).Pairwise related := by
  induction steps generalizing start with
  | nil => exact .nil
  | cons step rest ih =>
      obtain ⟨first, others⟩ := List.pairwise_cons.1 sorted
      rw [history, List.filterMap_append, List.pairwise_append]
      refine ⟨?_, ih others (step.next start), ?_⟩
      · cases made : step.event? start with
        | none => exact .nil
        | some e => cases told : tell e <;> simp [told]
      · intro a told b later
        obtain ⟨e, made, told⟩ := List.mem_filterMap.1 told
        obtain ⟨e', member, told'⟩ := List.mem_filterMap.1 later
        obtain ⟨step', among, connection, made'⟩ := exists_step_of_mem_history member
        exact ordered (first step' among) (Option.mem_toList.1 made) told made' told'

end AnchorRegistry
