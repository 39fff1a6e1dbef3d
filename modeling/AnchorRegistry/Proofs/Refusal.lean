import AnchorRegistry.Proofs.Repository

/-! No failure looks like a success. A failure that the service classified says a status of 400 or more, and
one that it did not classify is answered with 500. The store reports only faults and unforeseen failures, so
a call fails with such a failure unless it was planned to fail with another. What an operation fails with is
therefore never a bare fault of the store, and refuses when every planned failure does. -/

namespace AnchorRegistry

/-- The status that the failure says, if it says one, is that of an error. -/
def Failure.Refuses : Failure → Prop
  | service e => 400 ≤ e.cause.httpStatus
  | _ => True

/-- Nobody has classified the failure. -/
def Failure.Unclassified : Failure → Prop
  | service _ => False
  | _ => True

theorem Failure.Unclassified.refuses {failure : Failure} (unclassified : failure.Unclassified) : failure.Refuses := by
  cases failure with
  | service e => exact unclassified.elim
  | storage fault | unforeseen reason => trivial

/-- Every planned failure of the call refuses. -/
def Session.FaultRefuses (s : Session) : Prop := ∀ fault ∈ s.fault, fault.failure.Refuses

/-- No planned failure of the call is classified before it is met. -/
def Session.FaultUnclassified (s : Session) : Prop := ∀ fault ∈ s.fault, fault.failure.Unclassified

theorem Failure.Refuses.classified {reason : Failure} (refuses : reason.Refuses) (operation : Text) (now : Instant) :
    (reason.classified operation now).Refuses := by
  cases reason with
  | service e => exact refuses
  | storage fault => exact (by decide : (400 : Int) ≤ 500)
  | unforeseen reason => trivial

theorem Failure.classified_ne_storage (operation : Text) (now : Instant) (reason : Failure) (fault : StorageFault) :
    reason.classified operation now ≠ .storage fault := by
  cases reason <;> simp [classified]

/-- Whatever the attempt fails with refuses. -/
def Attempt.Refuses {α : Type} (attempt : Attempt α) : Prop := ∀ failure, attempt = .error failure → failure.Refuses

/-- Whatever the attempt fails with is not classified yet. -/
def Attempt.Unclassified {α : Type} (attempt : Attempt α) : Prop :=
  ∀ failure, attempt = .error failure → failure.Unclassified

namespace Attempt

variable {α β : Type}

theorem unclassified_ok (a : α) : Unclassified (.ok a) := nofun

theorem unclassified_error {failure : Failure} (unclassified : failure.Unclassified) :
    Unclassified (.error failure : Attempt α) := by
  intro other same
  cases same
  exact unclassified

theorem Unclassified.bind {attempt : Attempt α} {next : α → Attempt β} (first : attempt.Unclassified)
    (rest : ∀ a, (next a).Unclassified) : Unclassified (attempt >>= next) := by
  cases attempt with
  | ok a => exact rest a
  | error failure => exact unclassified_error (first failure rfl)

theorem Unclassified.map {attempt : Attempt α} (unclassified : attempt.Unclassified) (f : α → β) :
    Unclassified (attempt.map f) := by
  cases attempt with
  | ok a => exact unclassified_ok (f a)
  | error failure => exact unclassified_error (unclassified failure rfl)

end Attempt

namespace Store

open Attempt

variable (store : Store) (prepared : Bool)

theorem unclassified_rows {α : Type} (table : Option (List α)) : (rows table).Unclassified := by
  cases table with
  | none => exact unclassified_error trivial
  | some found => exact unclassified_ok found

theorem unclassified_encodable (texts : List Text) : (encodable texts).Unclassified := by
  intro failure met
  obtain ⟨t, -, -, rfl⟩ := encodable_eq_error met
  trivial

theorem unclassified_boundRows {α : Type} (table : Option (List α)) (texts : List Text) :
    (boundRows prepared table texts).Unclassified := by
  unfold boundRows
  split
  · exact (unclassified_encodable texts).bind fun _ => unclassified_rows table
  · exact (unclassified_rows table).bind fun found => (unclassified_encodable texts).bind fun _ => unclassified_ok found

theorem unclassified_selectAnchors (p : Anchor → Bool) : (store.selectAnchors p).Unclassified :=
  (unclassified_rows _).map _

theorem unclassified_selectAssets (p : Asset → Bool) : (store.selectAssets p).Unclassified :=
  (unclassified_rows _).map _

theorem unclassified_selectByAccount (account : Text) : (store.selectByAccount prepared account).Unclassified :=
  (unclassified_boundRows prepared _ _).bind fun _ => unclassified_ok _

theorem unclassified_insertAnchor (row : Anchor) : (store.insertAnchor prepared row).Unclassified := by
  apply (unclassified_boundRows prepared _ _).bind
  intro found
  split
  · exact unclassified_ok _
  · exact unclassified_error trivial

theorem unclassified_updateAnchor (row : Anchor) : (store.updateAnchor row).Unclassified :=
  (unclassified_rows _).bind fun _ => unclassified_ok _

theorem unclassified_insertAsset (row : Asset) : (store.insertAsset prepared row).Unclassified := by
  apply (unclassified_boundRows prepared _ _).bind
  intro found
  apply (unclassified_rows _).bind
  intro owners
  split
  · exact unclassified_ok _
  · exact unclassified_error trivial

end Store

namespace Session

variable {α : Type} {s : Session} {call : Call} {result : Attempt α}

/-- A call fails as it was planned to, or else as the store does. -/
theorem attempt_eq_error {failure : Failure} (met : s.attempt call result = .error failure) :
    (∃ fault ∈ s.fault, fault.failure = failure) ∨ result = .error failure := by
  unfold attempt at met
  split at met
  · rename_i planned failure' found
    cases met
    unfold planned? at found
    split at found
    · rename_i fault given
      split at found
      · cases found
        have same : (s.count call).fault = s.fault := (keeps_count s call).fault
        exact .inl ⟨fault, same ▸ given, rfl⟩
      · cases found
    · cases found
  · exact .inr met

theorem attempt_unclassified (covered : s.FaultUnclassified) (store : result.Unclassified) :
    (s.attempt call result).Unclassified := by
  intro failure met
  rcases attempt_eq_error met with ⟨fault, given, rfl⟩ | failed
  · exact covered fault given
  · exact store failure failed

theorem attempt_refuses (covered : s.FaultRefuses) (store : result.Unclassified) : (s.attempt call result).Refuses := by
  intro failure met
  rcases attempt_eq_error met with ⟨fault, given, rfl⟩ | failed
  · exact covered fault given
  · exact (store failure failed).refuses

end Session

namespace Repository

variable {s : Session} {failure : Failure}

/-- The two kinds of failure of an operation: one that it raised by itself, and one that a call met. -/
inductive Classified (s : Session) : Failure → Prop
  | raised {e : ServiceError} (refuses : 400 ≤ e.cause.httpStatus) : Classified s (.service e)
  | met {reason : Failure} (refuses : s.FaultRefuses → reason.Refuses) (operation : Text) (now : Instant) :
    Classified s (reason.classified operation now)

namespace Classified

/-- An operation leaves no bare fault of the store. -/
theorem ne_storage (classified : Classified s failure) (fault : StorageFault) : failure ≠ .storage fault := by
  cases classified with
  | raised refuses => exact nofun
  | met refuses operation now => exact Failure.classified_ne_storage operation now _ fault

theorem refuses (classified : Classified s failure) (covered : s.FaultRefuses) : failure.Refuses := by
  cases classified with
  | raised refuses => exact refuses
  | met refuses operation now => exact (refuses covered).classified operation now

/-- What is made of a failure that a call met. -/
theorem of_attempt {α : Type} {call : Call} {result : Attempt α} (store : result.Unclassified)
    (met : s.attempt call result = .error failure) {operation : Text} {now : Instant} :
    Classified s (failure.classified operation now) := by
  refine .met (fun covered => ?_) operation now
  exact Session.attempt_refuses covered store failure met

/-- Calls that went before leave the plan as it is. -/
theorem of_count {call : Call} (classified : Classified (s.count call) failure) : Classified s failure := by
  have same : (s.count call).fault = s.fault := (Session.keeps_count s call).fault
  cases classified with
  | raised refuses => exact .raised refuses
  | met refuses operation now =>
      refine .met (fun covered => refuses ?_) operation now
      intro fault given
      exact covered fault (same ▸ given)

end Classified

theorem LookupFails.classified {raw : Text} (fails : LookupFails raw s failure) : Classified s failure := by
  cases fails with
  | broken read met => exact .of_attempt (Store.unclassified_selectAnchors _ _) met
  | _ => exact .raised (by decide : (400 : Int) ≤ 404)

end Repository

end AnchorRegistry
