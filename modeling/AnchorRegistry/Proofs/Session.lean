import AnchorRegistry.Session

/-! How actions end. `Ends` says of an action and a session what holds of the value it returns or of the
failure it ends with, and in either case of the session it leaves; there is one rule for each way to build
an action, so what an operation does is read off its text. A call gives what is planned for it or else what
the store gives, which is its `attempt`. Whatever happens, the store is changed by nothing but a commit that
succeeds, and the time, the fresh identifier and the planned fault stay as they are. -/

namespace AnchorRegistry

namespace Session

variable {α : Type}

/-- What a call gives: the failure that is planned for it, or else what the store gives. -/
def attempt (s : Session) (call : Call) (result : Attempt α) : Attempt α :=
  match (s.count call).planned? call with
  | some failure => .error failure
  | none => result

theorem attempt_unfaulted {s : Session} (unfaulted : s.fault = none) (call : Call) (result : Attempt α) :
    s.attempt call result = result := by
  have nothing : (s.count call).planned? call = none := by
    cases call <;> simp [planned?, count, unfaulted]
  rw [attempt, nothing]

theorem eq_ok_of_attempt {s : Session} {call : Call} {result : Attempt α} {a : α}
    (h : s.attempt call result = .ok a) : result = .ok a := by
  unfold attempt at h
  split at h
  · cases h
  · exact h

def note (s : Session) (r : Log.Record) : Session := { s with log := s.log ++ [r] }

def withStore (s : Session) (store : Store) : Session := { s with store := store }

/-- The session after a call that binds texts: its statement is prepared unless a planned failure came
first. -/
def reach (s : Session) (call : Call) (statement : Statement) : Session :=
  match (s.count call).planned? call with
  | some _ => s.count call
  | none => { s.count call with toConnection := s.prepare statement }

/-- The second session goes on in the circumstances of the first. -/
structure Frame (s t : Session) : Prop where
  now : t.now = s.now
  freshId : t.freshId = s.freshId
  fault : t.fault = s.fault

/-- The second session goes on from the first and has the same store. -/
structure Keeps (s t : Session) : Prop extends Frame s t where
  store : t.store = s.store

theorem Keeps.refl (s : Session) : s.Keeps s := ⟨⟨rfl, rfl, rfl⟩, rfl⟩

theorem Frame.trans {s t u : Session} (first : s.Frame t) (second : t.Frame u) : s.Frame u :=
  ⟨second.now.trans first.now, second.freshId.trans first.freshId, second.fault.trans first.fault⟩

theorem Keeps.trans {s t u : Session} (first : s.Keeps t) (second : t.Keeps u) : s.Keeps u :=
  ⟨first.toFrame.trans second.toFrame, second.store.trans first.store⟩

theorem keeps_note (s : Session) (r : Log.Record) : s.Keeps (s.note r) := ⟨⟨rfl, rfl, rfl⟩, rfl⟩

theorem frame_withStore (s : Session) (store : Store) : s.Frame (s.withStore store) := ⟨rfl, rfl, rfl⟩

theorem keeps_count (s : Session) (call : Call) : s.Keeps (s.count call) := by
  cases call <;> exact ⟨⟨rfl, rfl, rfl⟩, rfl⟩

theorem keeps_reach (s : Session) (call : Call) (statement : Statement) :
    s.Keeps (s.reach call statement) := by
  unfold reach
  split
  · exact keeps_count s call
  · have counted := keeps_count s call
    exact ⟨⟨counted.now, counted.freshId, counted.fault⟩, Connection.store_prepare _ statement⟩

end Session

namespace Failure

/-- What becomes of a failure of an operation: a fault of the store is named after the operation. -/
def classified (operation : Text) (now : Instant) : Failure → Failure
  | storage _ => service ⟨.storageUnavailable "Storage operation failed" operation, { timestamp := now }⟩
  | failure => failure

/-- What becomes of a failure that leaves a whole session. -/
def outermost (now : Instant) : Failure → Failure
  | storage fault => service ⟨fault.cause, { timestamp := now }⟩
  | failure => failure

/-- The failure of a payload or a merge that a check refuses. -/
def refused (violation : Violation) (anchorId : Option Text) (now : Instant) : Failure :=
  service ⟨.invalidInput violation.message violation.field?, { timestamp := now, anchorId }⟩

end Failure

namespace Action

variable {α β : Type}

/-- What a guarded action logs of a fault of the store. -/
def guardRecord (operation : Text) : Log.Record where
  level := .error
  source := Log.Source.repository.name
  message := ("Storage failure during " : Text) ++ operation
  extras := { operation := some operation }

/-- How an action ends from a session: what holds of a value and the session that is left, and what of a
failure and the session that is left. -/
def Ends (act : Action α) (s : Session) (R : α → Session → Prop) (F : Failure → Session → Prop) :
    Prop :=
  match act s with
  | (.ok a, t) => R a t
  | (.error failure, t) => F failure t

section Rules

variable {act other : Action α} {next : α → Action β} {s : Session} {R Q : α → Session → Prop}
  {F G : Failure → Session → Prop} {A : β → Session → Prop}

theorem Ends.ok (ends : act.Ends s R F) {a : α} {t : Session} (run : act s = (.ok a, t)) :
    R a t := by
  rw [Ends, run] at ends
  exact ends

theorem Ends.error (ends : act.Ends s R F) {failure : Failure} {t : Session}
    (run : act s = (.error failure, t)) : F failure t := by
  rw [Ends, run] at ends
  exact ends

/-- What holds of the session that is left either way. -/
theorem Ends.left {leaves : Session → Prop} (ends : act.Ends s (fun _ => leaves) fun _ => leaves) :
    leaves (act s).2 := by
  cases run : act s with
  | mk result t =>
      cases result with
      | ok a => exact ends.ok run
      | error failure => exact ends.error run

theorem Ends.mono (ends : act.Ends s R F) (ok : ∀ a t, R a t → Q a t)
    (error : ∀ failure t, F failure t → G failure t) : act.Ends s Q G := by
  unfold Ends at ends ⊢
  split
  · rename_i a t run
    rw [run] at ends
    exact ok a t ends
  · rename_i failure t run
    rw [run] at ends
    exact error failure t ends

theorem Ends.pure {a : α} (h : R a s) : Ends (pure a : Action α) s R F := h

theorem Ends.bind (first : act.Ends s R F)
    (rest : ∀ a t, R a t → (next a).Ends t A F) : (act >>= next).Ends s A F := by
  unfold Ends at first ⊢
  rw [bind_apply]
  cases run : act s with
  | mk result t =>
      rw [run] at first
      cases result with
      | ok a => exact rest a t first
      | error failure => exact first

/-- A note in the log always R. -/
theorem Ends.log_bind {r : Log.Record} {next : Unit → Action β} (rest : (next ()).Ends (s.note r) A F) :
    (log r >>= next).Ends s A F := rest

theorem Ends.now_bind {next : Instant → Action β} (rest : (next s.now).Ends s A F) :
    (now >>= next).Ends s A F := rest

theorem Ends.freshId_bind {next : EntityId → Action β} (rest : (next s.freshId).Ends s A F) :
    (freshId >>= next).Ends s A F := rest

theorem Ends.fail {cause : Cause} {anchorId accountReference : Option Text}
    (h : F (.service ⟨cause, ⟨s.now, anchorId, accountReference⟩⟩) s) :
    (Action.fail cause anchorId accountReference : Action α).Ends s R F := h

/-- After a check the action goes on if nothing was found. -/
theorem Ends.refuse_bind {violation : Option Violation} {anchorId : Option Text} {next : Unit → Action β}
    (rest : violation = none → (next ()).Ends s A F)
    (found : ∀ v, violation = some v → F (.refused v anchorId s.now) s) :
    (refuse violation anchorId >>= next).Ends s A F := by
  cases violation with
  | none => exact rest rfl
  | some v => exact found v rfl

/-- A guarded action ends as the action does, but for faults of the store, which it logs and classifies. -/
theorem Ends.guarded_noting {operation : Text} (ends : act.Ends s R F)
    (storage : ∀ fault t, F (.storage fault) t →
      G (Failure.classified operation t.now (.storage fault)) (t.note (guardRecord operation)))
    (other : ∀ failure t, F failure t → (∀ fault, failure ≠ .storage fault) → G failure t) :
    (guarded operation act).Ends s R G := by
  unfold Ends at ends ⊢
  unfold Action.guarded
  cases run : act s with
  | mk result t =>
      rw [run] at ends
      rcases result with (error | fault | reason) | a
      case error.service | error.unforeseen => exact other _ t ends nofun
      case error.storage => exact storage fault t ends
      case ok => exact ends

/-- The same where nothing is asked of the log. -/
theorem Ends.guarded {operation : Text} (ends : act.Ends s R F)
    (classify : ∀ failure t u, F failure t → t.Keeps u → G (failure.classified operation t.now) u) :
    (guarded operation act).Ends s R G := by
  refine ends.guarded_noting (fun fault t met => classify _ t _ met (Session.keeps_note t _)) ?_
  intro failure t met bare
  cases failure with
  | storage fault => exact absurd rfl (bare fault)
  | service error => exact classify (.service error) t t met (.refl t)
  | unforeseen reason => exact classify (.unforeseen reason) t t met (.refl t)

theorem Ends.onIntegrity (ends : act.Ends s R F)
    (instead : ∀ t, F (.storage .integrity) t → other.Ends t R G)
    (rest : ∀ failure t, F failure t → failure ≠ .storage .integrity → G failure t) :
    (act.onIntegrity other).Ends s R G := by
  unfold Ends at ends ⊢
  unfold Action.onIntegrity
  cases run : act s with
  | mk result t =>
      rw [run] at ends
      rcases result with failure | a
      · rcases failure with error | (_ | _ | _ | _ | _ | _) | reason
        case storage.integrity => exact instead t ends
        all_goals exact rest _ t ends (by simp)
      · exact ends

/-- A whole session ends as its action does, but for faults of the store, which it logs and classifies. -/
theorem Ends.inSession_noting (ends : act.Ends s R F)
    (storage : ∀ fault t, F (.storage fault) t →
      G (Failure.outermost t.now (.storage fault)) (t.note fault.logRecord))
    (other : ∀ failure t, F failure t → (∀ fault, failure ≠ .storage fault) → G failure t) :
    act.inSession.Ends s R G := by
  unfold Ends at ends ⊢
  unfold Action.inSession
  cases run : act s with
  | mk result t =>
      rw [run] at ends
      rcases result with (error | fault | reason) | a
      case error.service | error.unforeseen => exact other _ t ends nofun
      case error.storage => exact storage fault t ends
      case ok => exact ends

/-- The same where nothing is asked of the log. -/
theorem Ends.inSession (ends : act.Ends s R F)
    (classify : ∀ failure t u, F failure t → t.Keeps u → G (failure.outermost t.now) u) :
    act.inSession.Ends s R G := by
  refine ends.inSession_noting (fun fault t met => classify _ t _ met (Session.keeps_note t _)) ?_
  intro failure t met bare
  cases failure with
  | storage fault => exact absurd rfl (bare fault)
  | service error => exact classify (.service error) t t met (.refl t)
  | unforeseen reason => exact classify (.unforeseen reason) t t met (.refl t)

end Rules

section Calls

variable (s : Session)

theorem execute_apply (select : Store → Attempt α) :
    execute select s = (s.attempt .execute (select s.store), s.count .execute) := by
  unfold execute calling Session.attempt
  cases planned : (s.count .execute).planned? .execute with
  | some failure => simp only [planned]
  | none =>
      simp only [planned]
      rfl

theorem executeBinding_apply (statement : Statement) (select : Bool → Store → Attempt α) :
    executeBinding statement select s =
      (s.attempt .execute (select (s.isPrepared statement) s.store), s.reach .execute statement) := by
  unfold executeBinding calling Session.attempt Session.reach
  cases planned : (s.count .execute).planned? .execute with
  | some failure => simp only [planned]
  | none =>
      simp only [planned, binding, query]
      rw [Connection.store_prepare]
      rfl

theorem commit_apply (update : Store → Attempt Store) :
    commit update s =
      match s.attempt .commit (update s.store) with
      | .ok store => (.ok (), (s.count .commit).withStore store)
      | .error failure => (.error failure, s.count .commit) := by
  unfold commit calling Session.attempt
  cases planned : (s.count .commit).planned? .commit with
  | some failure => simp only [planned]
  | none =>
      simp only [planned]
      rfl

theorem commitBinding_apply (statement : Statement) (update : Bool → Store → Attempt Store) :
    commitBinding statement update s =
      match s.attempt .commit (update (s.isPrepared statement) s.store) with
      | .ok store => (.ok (), (s.reach .commit statement).withStore store)
      | .error failure => (.error failure, s.reach .commit statement) := by
  unfold commitBinding calling Session.attempt Session.reach
  cases planned : (s.count .commit).planned? .commit with
  | some failure => simp only [planned]
  | none =>
      simp only [planned, binding, write]
      rw [Connection.store_prepare]
      rfl

variable {s} {R : α → Session → Prop} {F : Failure → Session → Prop}

theorem Ends.execute {select : Store → Attempt α}
    (ok : ∀ a, s.attempt .execute (select s.store) = .ok a → R a (s.count .execute))
    (error : ∀ failure, s.attempt .execute (select s.store) = .error failure →
      F failure (s.count .execute)) : (execute select).Ends s R F := by
  rw [Ends, execute_apply]
  cases outcome : s.attempt .execute (select s.store) with
  | ok a => exact ok a outcome
  | error failure => exact error failure outcome

theorem Ends.executeBinding {statement : Statement} {select : Bool → Store → Attempt α}
    (ok : ∀ a, s.attempt .execute (select (s.isPrepared statement) s.store) = .ok a →
      R a (s.reach .execute statement))
    (error : ∀ failure, s.attempt .execute (select (s.isPrepared statement) s.store) = .error failure →
      F failure (s.reach .execute statement)) :
    (executeBinding statement select).Ends s R F := by
  rw [Ends, executeBinding_apply]
  cases outcome : s.attempt .execute (select (s.isPrepared statement) s.store) with
  | ok a => exact ok a outcome
  | error failure => exact error failure outcome

theorem Ends.commit {update : Store → Attempt Store} {R : Unit → Session → Prop}
    (ok : ∀ store, s.attempt .commit (update s.store) = .ok store →
      R () ((s.count .commit).withStore store))
    (error : ∀ failure, s.attempt .commit (update s.store) = .error failure →
      F failure (s.count .commit)) : (commit update).Ends s R F := by
  rw [Ends, commit_apply]
  cases outcome : s.attempt .commit (update s.store) with
  | ok store => exact ok store outcome
  | error failure => exact error failure outcome

theorem Ends.commitBinding {statement : Statement} {update : Bool → Store → Attempt Store}
    {R : Unit → Session → Prop}
    (ok : ∀ store, s.attempt .commit (update (s.isPrepared statement) s.store) = .ok store →
      R () ((s.reach .commit statement).withStore store))
    (error : ∀ failure, s.attempt .commit (update (s.isPrepared statement) s.store) = .error failure →
      F failure (s.reach .commit statement)) :
    (commitBinding statement update).Ends s R F := by
  rw [Ends, commitBinding_apply]
  cases outcome : s.attempt .commit (update (s.isPrepared statement) s.store) with
  | ok store => exact ok store outcome
  | error failure => exact error failure outcome

end Calls

-- From here on an action is taken apart by the rules alone, and never by running it.
attribute [irreducible] Ends

end Action

end AnchorRegistry
