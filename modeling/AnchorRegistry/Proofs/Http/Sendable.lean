import AnchorRegistry.Http.Rendering
import AnchorRegistry.Proofs.Encodable
import AnchorRegistry.Proofs.Text.Storable

/-! Which responses can be sent. A body can be encoded when every text in it can; everything the service adds
by itself can, so a row is sent when its own texts have an encoding, and an error when its message has. What the
checks find in a payload is told by the name of a field, and the names of fields have encodings. -/

namespace AnchorRegistry

namespace Json

theorem storableItems_iff {items : List Json} : storableItems items ↔ ∀ item ∈ items, item.storable := by
  induction items with
  | nil => simp [storableItems]
  | cons item rest ih => simp [storableItems, ih]

theorem storableMembers_iff {members : List (Text × Json)} :
    storableMembers members ↔ ∀ m ∈ members, m.1.Storable ∧ m.2.storable := by
  induction members with
  | nil => simp [storableMembers]
  | cons member rest ih =>
      obtain ⟨key, value⟩ := member
      simp [storableMembers, ih]

@[simp] theorem storable_string {t : Text} : (string t).storable ↔ t.Storable := decide_eq_true_iff

@[simp] theorem storable_array {items : List Json} : (array items).storable ↔ ∀ item ∈ items, item.storable :=
  storableItems_iff

@[simp] theorem storable_object {members : List (Text × Json)} :
    (object members).storable ↔ ∀ m ∈ members, m.1.Storable ∧ m.2.storable := storableMembers_iff

theorem storable_array_map {α : Type} {f : α → Json} {rows : List α} :
    (array (rows.map f)).storable ↔ ∀ row ∈ rows, (f row).storable := by
  rw [storable_array, List.forall_mem_map]

theorem storable_ofText? {t : Option Text} : (ofText? t).storable ↔ ∀ s ∈ t, s.Storable := by
  cases t with
  | none => simp [ofText?, storable]
  | some t => simp [ofText?]

end Json

namespace Http

theorem storable_ofOptional {α : Type} {f : α → Json} (each : ∀ a, (f a).storable) (a : Option α) :
    (ofOptional f a).storable := by
  cases a with
  | none => rfl
  | some a => exact each a

theorem storable_wireMetric (m : Metrics) (metric : Metric) : (wireMetric m metric).storable := by
  cases metric <;> first | rfl | exact storable_ofOptional (fun _ => rfl) _

theorem storable_wireName (metric : Metric) : metric.wireName.Storable := by
  cases metric <;> exact Text.storable_ofString _

theorem storable_wireTimestamp (t : Timestamp) : (wireTimestamp t).storable :=
  Json.storable_string.2 (t.storable_toText "Z")

/-- An anchor can be sent when its texts have an encoding. -/
theorem storable_wireAnchor {a : Anchor} (storable : ∀ t ∈ a.texts, t.Storable) : (wireAnchor a).storable := by
  obtain ⟨account, name, domain, description⟩ := Anchor.storable_texts.1 storable
  have domain_sendable := Json.storable_ofText?.2 domain
  have description_sendable := Json.storable_ofText?.2 description
  rw [wireAnchor, Json.storable_object]
  intro m member
  rw [List.mem_append, List.mem_append] at member
  rcases member with (profile | metrics) | times
  · simp only [List.mem_cons, List.not_mem_nil, or_false] at profile
    rcases profile with rfl | rfl | rfl | rfl | rfl <;>
      simp [account, name, domain_sendable, description_sendable]
  · obtain ⟨metric, -, rfl⟩ := List.mem_map.1 metrics
    exact ⟨storable_wireName metric, storable_wireMetric a.metrics metric⟩
  · simp only [List.mem_cons, List.not_mem_nil, or_false] at times
    rcases times with rfl | rfl <;> exact ⟨Text.storable_ofString _, storable_wireTimestamp _⟩

theorem storable_wireAsset {a : Asset} (storable : ∀ t ∈ a.texts, t.Storable) : (wireAsset a).storable := by
  obtain ⟨code, issuer⟩ := Asset.storable_texts.1 storable
  have issuer_sendable := Json.storable_ofText?.2 issuer
  have supply : (ofOptional .double a.totalSupply).storable := storable_ofOptional (fun _ => rfl) _
  have holders : (Json.int a.numHolders).storable := rfl
  rw [wireAsset, Json.storable_object]
  intro m member
  simp only [List.mem_cons, List.not_mem_nil, or_false] at member
  rcases member with rfl | rfl | rfl | rfl | rfl | rfl | rfl | rfl <;>
    simp [code, issuer_sendable, supply, holders, storable_wireTimestamp]

/-- An envelope can be sent when its four words and what else is in it can. -/
theorem storable_errorEnvelope {code message category severity : Text} {more : List (Text × Json)}
    (category_storable : category.Storable) (severity_storable : severity.Storable)
    (more_storable : ∀ m ∈ more, m.1.Storable ∧ m.2.storable) :
    (errorEnvelope code message category severity more).storable ↔ code.Storable ∧ message.Storable := by
  simp only [errorEnvelope, Json.storable_object, List.mem_singleton, forall_eq, Text.storable_ofString, true_and,
    List.forall_mem_append, List.forall_mem_cons, Json.storable_string]
  constructor
  · rintro ⟨⟨code_storable, message_storable, -⟩, -⟩
    exact ⟨code_storable, message_storable⟩
  · rintro ⟨code_storable, message_storable⟩
    exact ⟨⟨code_storable, message_storable, category_storable, severity_storable⟩, more_storable⟩

end Http

theorem Category.storable_name (category : Category) : category.name.Storable := by
  cases category <;> exact Text.storable_ofString _

theorem Severity.storable_name (severity : Severity) : severity.name.Storable := by
  cases severity <;> exact Text.storable_ofString _

/-- A service error can be sent when its code and its message can, and always when it says neither. -/
theorem ServiceError.storable_response (e : ServiceError) :
    e.response.storable ↔ e.cause.isInternal ∨ e.cause.code.Storable ∧ e.cause.message.Storable := by
  have stamped : ∀ m ∈ [(("timestamp" : Text), Json.string e.context.timestamp.toUtcText)],
      m.1.Storable ∧ m.2.storable := by
    simp
  unfold response
  split
  · rename_i internal
    rw [Http.storable_errorEnvelope (Category.storable_name _) (Severity.storable_name _) stamped]
    have generic : internalCode.Storable ∧ genericFailureMessage.Storable :=
      ⟨Text.storable_ofString _, Text.storable_ofString _⟩
    exact iff_of_true generic (.inl internal)
  · rename_i shown
    rw [Http.storable_errorEnvelope (Category.storable_name _) (Severity.storable_name _) stamped,
      or_iff_right shown]

namespace Validation

/-- Whatever was found can be told. -/
def Tellable (found : Option Violation) : Prop := ∀ v ∈ found, v.message.Storable

theorem tellable_none : Tellable none := fun _ impossible => absurd impossible (Option.not_mem_none _)

theorem tellable_some {v : Violation} (field : ∀ t ∈ v.field?, t.Storable) : Tellable (some v) := by
  rintro _ ⟨⟩
  cases v with
  | inconsistentTotals | emptyUpdate => exact Text.storable_ofString _
  | fieldTooLong | outOfRange =>
      have storable := field _ rfl
      simp [Violation.message, storable]
  | _ =>
      have storable := field _ rfl
      exact Text.storable_append.2 ⟨storable, Text.storable_ofString _⟩

theorem Tellable.orElse {first second : Option Violation} (tellable : Tellable first) (rest : Tellable second) :
    Tellable (first <|> second) := by
  cases first with
  | none => exact rest
  | some v => exact tellable

section Field

variable {field : Text} (storable : field.Storable)

include storable

/-- A check of one field finds nothing, or something about that field. -/
theorem tellable_about {found : Option Violation} (about : ∀ v ∈ found, v.field? = some field) : Tellable found := by
  cases found with
  | none => exact tellable_none
  | some v =>
      apply tellable_some
      intro t given
      rw [about v rfl] at given
      cases given
      exact storable

theorem tellable_optionalText (value : Option Text) (limit : Number) : Tellable (optionalText value field limit) := by
  apply tellable_about storable
  intro v found
  unfold optionalText at found
  split at found
  · cases found
  · split at found <;> cases found
    rfl

theorem tellable_requiredText (value : Option Text) (limit : Number) : Tellable (requiredText value field limit) := by
  unfold requiredText
  split
  · exact tellable_some fun t given => Option.some.inj given ▸ storable
  · split
    · exact tellable_some fun t given => Option.some.inj given ▸ storable
    · exact tellable_optionalText storable _ limit

theorem tellable_nonNegative (value : Option Number) : Tellable (nonNegative value field) := by
  apply tellable_about storable
  intro v found
  unfold nonNegative at found
  split at found
  · cases found
  · split at found
    · cases found
      rfl
    · split at found <;> cases found
      rfl

theorem tellable_upperBound (value : Option Number) (upper : Number) : Tellable (upperBound value field upper) := by
  apply tellable_about storable
  intro v found
  unfold upperBound at found
  split at found
  · cases found
  · split at found <;> cases found
    rfl

theorem tellable_metricEntry (value : Option Number) : Tellable (metricEntry field value) := by
  unfold metricEntry
  split
  · exact tellable_some fun t given => Option.some.inj given ▸ storable
  · rename_i metric known
    split
    · exact tellable_some fun t given => Option.some.inj given ▸ storable
    · apply Tellable.orElse (tellable_nonNegative storable _)
      cases metric.upper? with
      | none => exact tellable_none
      | some upper =>
          rw [Option.bind_some]
          exact tellable_upperBound storable _ upper

end Field

theorem tellable_anchor (accountReference name homeDomain : Option Text) :
    Tellable (anchor accountReference name homeDomain) := by
  apply Tellable.orElse
  · exact tellable_requiredText (Text.storable_ofString _) _ _
  apply Tellable.orElse
  · exact tellable_requiredText (Text.storable_ofString _) _ _
  · exact tellable_optionalText (Text.storable_ofString _) _ _

theorem tellable_asset (code issuer : Option Text) (totalSupply numHolders : Option Number) :
    Tellable (asset code issuer totalSupply numHolders) := by
  apply Tellable.orElse
  · exact tellable_requiredText (Text.storable_ofString _) _ _
  apply Tellable.orElse
  · exact tellable_optionalText (Text.storable_ofString _) _ _
  apply Tellable.orElse
  · exact tellable_nonNegative (Text.storable_ofString _) _
  apply Tellable.orElse
  · exact tellable_nonNegative (Text.storable_ofString _) _
  · exact tellable_upperBound (Text.storable_ofString _) _ _

theorem tellable_transactionTotals (total successful failed : Int) :
    Tellable (transactionTotals total successful failed) := by
  unfold transactionTotals
  split
  · exact tellable_some fun t given => Option.some.inj given ▸ Text.storable_ofString _
  · exact tellable_none

theorem tellable_metricsUpdate {entries : List (Text × Option Number)} (names : ∀ entry ∈ entries, entry.1.Storable) :
    Tellable (metricsUpdate entries) := by
  unfold metricsUpdate
  split
  · exact tellable_some fun t given => absurd given (Option.not_mem_none t)
  · intro v found
    obtain ⟨⟨name, value⟩, member, met⟩ := List.exists_of_findSome?_eq_some found
    exact tellable_metricEntry (names _ member) value v met

end Validation

theorem Metric.storable_name (metric : Metric) : metric.name.Storable := by
  cases metric <;> exact Text.storable_ofString _

/-- What the checks find in an update can be told, because its entries have the names of metrics. -/
theorem Payload.MetricsUpdate.tellable_changes (p : Payload.MetricsUpdate) :
    Validation.Tellable (Validation.metricsUpdate p.changes) := by
  apply Validation.tellable_metricsUpdate
  intro entry member
  obtain ⟨metric, -, rfl⟩ := List.mem_map.1 member
  exact metric.storable_name

theorem Payload.Issue.storable_message (issue : Payload.Issue) : issue.message.Storable := by
  cases issue <;> exact Text.storable_ofString _

theorem Payload.Issue.storable_kind (issue : Payload.Issue) : issue.kind.Storable := by
  cases issue <;> exact Text.storable_ofString _

/-- The answer to an unusable payload can be sent when the paths in it can. -/
theorem Http.isSendable_invalidPayload {details : List Payload.Detail}
    (paths : ∀ detail ∈ details, ∀ step ∈ detail.path, step.Storable) : (invalidPayload details).isSendable := by
  have items : (Json.array (details.map wireDetail)).storable := by
    rw [Json.storable_array_map]
    intro detail among
    have path := Text.storable_join (Text.storable_ofString ".") (paths detail among)
    simp [wireDetail, path, detail.issue.storable_message, detail.issue.storable_kind]
  have more : ∀ m ∈ [(("details" : Text), Json.array (details.map wireDetail))], m.1.Storable ∧ m.2.storable := by
    intro m member
    rw [List.mem_singleton] at member
    rw [member]
    exact ⟨Text.storable_ofString _, items⟩
  exact (storable_errorEnvelope (Category.storable_name .validation) (Severity.storable_name .error) more).2
    ⟨Text.storable_ofString _, Text.storable_ofString _⟩

end AnchorRegistry
