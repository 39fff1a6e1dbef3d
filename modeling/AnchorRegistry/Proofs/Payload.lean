import AnchorRegistry.Http.Service
import AnchorRegistry.Proofs.Effective
import AnchorRegistry.Proofs.Text.Storable

/-! Reading payloads. A payload that is accepted comes from an object whose fields were read one by one, and a
field is supplied exactly where the object has one of its keys. What is rejected is told by paths that the
service spells itself, so it can always be told. -/

namespace AnchorRegistry.Payload

namespace Checked

variable {α β : Type}

theorem map_eq_accepted {f : α → β} {checked : Checked α} {value : β} :
    f <$> checked = accepted value ↔ ∃ a, checked = accepted a ∧ value = f a := by
  cases checked with
  | accepted a =>
      constructor
      · intro same
        cases same
        exact ⟨a, rfl, rfl⟩
      · rintro ⟨a, same, rfl⟩
        cases same
        rfl
  | rejected details =>
      constructor
      · intro same
        cases same
      · rintro ⟨a, same, -⟩
        cases same

theorem seq_eq_accepted {f : Checked (α → β)} {checked : Checked α} {value : β} :
    f <*> checked = accepted value ↔ ∃ g a, f = accepted g ∧ checked = accepted a ∧ value = g a := by
  show seq f checked = accepted value ↔ _
  cases f <;> cases checked <;> simp [seq, eq_comm]

/-- Everything that was wrong is told by paths that have an encoding. -/
def Tellable (checked : Checked α) : Prop :=
  ∀ details, checked = rejected details → ∀ detail ∈ details, ∀ step ∈ detail.path, step.Storable

theorem tellable_accepted (a : α) : (accepted a).Tellable := nofun

theorem tellable_rejected {path : List Text} {issue : Issue} (storable : ∀ step ∈ path, step.Storable) :
    (rejected [⟨path, issue⟩] : Checked α).Tellable := by
  rintro details same detail member
  cases same
  rw [List.mem_singleton] at member
  rw [member]
  exact storable

theorem Tellable.map {checked : Checked α} (tellable : checked.Tellable) (f : α → β) : (checked.map f).Tellable := by
  cases checked with
  | accepted a => exact tellable_accepted _
  | rejected details =>
      rintro _ same
      cases same
      exact tellable details rfl

theorem Tellable.seq {f : Checked (α → β)} {checked : Checked α} (first : f.Tellable) (second : checked.Tellable) :
    (f <*> checked).Tellable := by
  show (Checked.seq f checked).Tellable
  cases f with
  | accepted g =>
      cases checked with
      | accepted a => exact tellable_accepted _
      | rejected details =>
          rintro _ same
          cases same
          exact second details rfl
  | rejected before =>
      cases checked with
      | accepted a =>
          rintro _ same
          cases same
          exact first before rfl
      | rejected details =>
          rintro _ same detail member
          cases same
          rcases List.mem_append.1 member with front | back
          · exact first before rfl detail front
          · exact second details rfl detail back

theorem Tellable.under {checked : Checked α} (tellable : checked.Tellable) {step : Text} (storable : step.Storable) :
    (checked.under step).Tellable := by
  cases checked with
  | accepted a => exact tellable_accepted a
  | rejected details =>
      rintro _ same detail member
      cases same
      obtain ⟨inner, among, rfl⟩ := List.mem_map.1 member
      exact List.forall_mem_cons.2 ⟨storable, tellable details rfl inner among⟩

theorem tellable_ofCoercion {path : List Text} (storable : ∀ step ∈ path, step.Storable) (coerce : Coercion α)
    (value : Json) : (ofCoercion path coerce value).Tellable := by
  unfold ofCoercion
  split
  · exact tellable_accepted _
  · exact tellable_rejected storable

end Checked

/-- Both spellings of the key have an encoding. -/
def Key.Storable (key : Key) : Prop := key.name.Storable ∧ key.wireName.Storable

section Fields

variable {α : Type} (coerce : Coercion α) {key : Key} (members : List (Text × Json))

/-- A field is found under one of its two keys. -/
theorem storable_of_effective? {members : List (Text × Json)} {used : Text} {value : Json} (storable : key.Storable)
    (found : effective? key members = some (used, value)) : used.Storable := by
  unfold effective? at found
  split at found
  · cases found
    exact storable.2
  · obtain ⟨_, -, same⟩ := Option.map_eq_some_iff.1 found
    cases same
    exact storable.1

theorem tellable_required (storable : key.Storable) : (required coerce key members).Tellable := by
  unfold required
  split
  · exact Checked.tellable_rejected (List.forall_mem_singleton.2 storable.2)
  · rename_i found
    exact Checked.tellable_ofCoercion (List.forall_mem_singleton.2 (storable_of_effective? storable found)) _ _

theorem tellable_optional (storable : key.Storable) : (optional coerce key members).Tellable := by
  unfold optional
  split
  · exact Checked.tellable_accepted _
  · exact Checked.tellable_accepted _
  · rename_i found
    refine Checked.Tellable.map (Checked.tellable_ofCoercion ?_ _ _) _
    exact List.forall_mem_singleton.2 (storable_of_effective? storable found)

/-- A field that may be absent is supplied where the object has one of its keys. -/
theorem isSupplied_of_optional {coerce : Coercion α} {members : List (Text × Json)} {entry : Entry α}
    (read : optional coerce key members = .accepted entry) :
    entry.isSupplied = (effective? key members).isSome := by
  rw [effective?_eq, Option.isSome_map]
  obtain ⟨found, rfl⟩ | ⟨found, rfl⟩ | ⟨_, a, _, found, _, rfl⟩ := optional_eq_accepted_iff.1 read
  all_goals
    rw [found]
    rfl

end Fields

theorem tellable_ofMembers {α : Type} {read : List (Text × Json) → Checked α}
    (tellable : ∀ members, (read members).Tellable) (json : Json) : (ofMembers read json).Tellable := by
  unfold ofMembers
  split
  · exact tellable _
  · exact Checked.tellable_rejected (List.forall_mem_nil _)

theorem Key.storable_mk (name wireName : String) : Key.Storable ⟨name, wireName⟩ :=
  ⟨Text.storable_ofString name, Text.storable_ofString wireName⟩

theorem Key.storable_ofMetric (metric : Metric) : (Key.ofMetric metric).Storable := by
  cases metric <;> exact storable_mk _ _

theorem NewAnchor.tellable_ofJson (json : Json) : (ofJson json).Tellable := by
  refine tellable_ofMembers (fun members => ?_) json
  have account := tellable_required text members (Key.storable_mk "account_reference" "accountReference")
  have name := tellable_required text members (Key.storable_mk "name" "name")
  have domain := tellable_optional text members (Key.storable_mk "home_domain" "homeDomain")
  have description := tellable_optional text members (Key.storable_mk "description" "description")
  exact (((account.map _).seq name).seq domain).seq description

theorem NewAsset.tellable_ofJson (json : Json) : (ofJson json).Tellable := by
  refine tellable_ofMembers (fun members => ?_) json
  have code := tellable_required text members (Key.storable_mk "code" "code")
  have issuer := tellable_optional text members (Key.storable_mk "issuer" "issuer")
  have supply := tellable_optional number members (Key.storable_mk "total_supply" "totalSupply")
  have holders := tellable_optional whole members (Key.storable_mk "num_holders" "numHolders")
  exact (((code.map _).seq issuer).seq supply).seq holders

namespace MetricsUpdate

theorem tellable_ofJson (json : Json) : (ofJson json).Tellable := by
  refine tellable_ofMembers (fun members => ?_) json
  have field {α : Type} (coerce : Coercion α) (metric : Metric) :
      (optional coerce (.ofMetric metric) members).Tellable :=
    tellable_optional coerce members (Key.storable_ofMetric metric)
  refine Checked.Tellable.seq (Checked.Tellable.seq (Checked.Tellable.seq (Checked.Tellable.seq
    (Checked.Tellable.seq (Checked.Tellable.seq (Checked.Tellable.map ?_ _) ?_) ?_) ?_) ?_) ?_) ?_
  all_goals exact field _ _

/-- How the value of a metric is read: a count or a duration is whole, a score or a volume need not be. -/
def coercion (metric : Metric) : Coercion Number := fun value =>
  match metric with
  | .trustScore | .reliabilityScore | .totalVolumeUsd => (number value).map .double
  | _ => (whole value).map .int

/-- An accepted update has read every metric in the way of its column. -/
theorem optional_coercion {members : List (Text × Json)} {p : MetricsUpdate}
    (read : ofJson (.object members) = .accepted p) (metric : Metric) :
    optional (coercion metric) (.ofMetric metric) members = .accepted (p.entry metric) := by
  obtain ⟨_, duration, read₁, durationRead, rfl⟩ := Checked.seq_eq_accepted.1 read
  obtain ⟨_, volume, read₂, volumeRead, rfl⟩ := Checked.seq_eq_accepted.1 read₁
  obtain ⟨_, failed, read₃, failedRead, rfl⟩ := Checked.seq_eq_accepted.1 read₂
  obtain ⟨_, successful, read₄, successfulRead, rfl⟩ := Checked.seq_eq_accepted.1 read₃
  obtain ⟨_, total, read₅, totalRead, rfl⟩ := Checked.seq_eq_accepted.1 read₄
  obtain ⟨_, reliability, read₆, reliabilityRead, rfl⟩ := Checked.seq_eq_accepted.1 read₅
  obtain ⟨trust, trustRead, rfl⟩ := Checked.map_eq_accepted.1 read₆
  cases metric with
  | trustScore => exact optional_map trustRead Number.double
  | reliabilityScore => exact optional_map reliabilityRead Number.double
  | totalTransactions => exact optional_map totalRead Number.int
  | successfulTransactions => exact optional_map successfulRead Number.int
  | failedTransactions => exact optional_map failedRead Number.int
  | totalVolumeUsd => exact optional_map volumeRead Number.double
  | avgSettlementTimeMs => exact optional_map durationRead Number.int

/-- An update comes from an object, and supplies a metric where the object has one of its keys. -/
theorem exists_members_of_ofJson {json : Json} {p : MetricsUpdate} (read : ofJson json = .accepted p) :
    ∃ members, json = .object members ∧
      ∀ metric, p.supplies metric = (effective? (.ofMetric metric) members).isSome := by
  cases json with
  | object members => exact ⟨members, rfl, fun metric => isSupplied_of_optional (optional_coercion read metric)⟩
  | _ => cases read

end MetricsUpdate

end AnchorRegistry.Payload

namespace AnchorRegistry.Http

theorem readPayload_eq_accepted {α : Type} {ofJson : Json → Payload.Checked α} {body : Option Json} {a : α} :
    readPayload ofJson body = .accepted a ↔ ∃ json, body = some json ∧ ofJson json = .accepted a := by
  cases body with
  | none => simp [readPayload, Payload.Checked.under]
  | some json => cases read : ofJson json <;> simp [readPayload, Payload.Checked.under, read]

theorem tellable_readPayload {α : Type} {ofJson : Json → Payload.Checked α} (tellable : ∀ json, (ofJson json).Tellable)
    (body : Option Json) : (readPayload ofJson body).Tellable := by
  refine Payload.Checked.Tellable.under ?_ (Text.storable_ofString _)
  cases body with
  | none => exact Payload.Checked.tellable_rejected (List.forall_mem_nil _)
  | some json => exact tellable json

end AnchorRegistry.Http
