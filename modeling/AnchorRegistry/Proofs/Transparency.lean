import AnchorRegistry.Proofs.Effective
import AnchorRegistry.Proofs.Payload
import AnchorRegistry.Proofs.Validation

/-! Payloads are transparent: they depend on the effective values of their fields and on nothing else, they say of
each field whether it has one and whether that is null, and writing out what was supplied and reading it again gives
the same payload. `Transparent` is this for one kind of payload; the rules for single fields make it hold of all
three. An update says it of every metric by name, so absent, null and zero stay apart up to the merge. -/

namespace AnchorRegistry.Payload

variable {α : Type} {members : List (Text × Json)} {key : Key}

theorem Entry.map_map {β γ : Type} (f : α → β) (g : β → γ) (entry : Entry α) :
    (entry.map f).map g = entry.map (g ∘ f) := by
  cases entry <;> rfl

section Supplied

variable {entries : List (Key × Entry Json)} {entry : Entry Json}

/-- The members of the object that the supplied fields are written as. -/
def suppliedMembers (entries : List (Key × Entry Json)) : List (Text × Json) :=
  entries.filterMap fun (key, entry) =>
    if entry.isSupplied then some (key.wireName, entry.value?.getD .null) else none

theorem suppliedObject_eq (entries : List (Key × Entry Json)) :
    suppliedObject entries = .object (suppliedMembers entries) := rfl

theorem mem_suppliedMembers {name : Text} {value : Json} :
    (name, value) ∈ suppliedMembers entries ↔ ∃ key entry, (key, entry) ∈ entries ∧ entry.isSupplied ∧
      key.wireName = name ∧ entry.value?.getD .null = value := by
  simp only [suppliedMembers, List.mem_filterMap, Prod.exists, Option.ite_none_right_eq_some, Option.some.injEq,
    Prod.mk.injEq]

variable (separate : (entries.map Prod.fst).Pairwise Key.Separate)

include separate

/-- No name is written twice. -/
theorem nodup_suppliedMembers : ((suppliedMembers entries).map Prod.fst).Nodup := by
  rw [List.Nodup, List.pairwise_map, suppliedMembers, List.pairwise_filterMap]
  refine (List.pairwise_map.1 separate).imp ?_
  intro field other apart written found otherWritten otherFound
  obtain ⟨-, same⟩ := Option.ite_none_right_eq_some.1 found
  obtain ⟨-, otherSame⟩ := Option.ite_none_right_eq_some.1 otherFound
  cases same
  cases otherSame
  exact apart.2.2.2

/-- Only a field that is supplied is written under one of its spellings. -/
theorem isSupplied_of_mem_suppliedMembers {name : Text} {value : Json} (field : (key, entry) ∈ entries)
    (written : (name, value) ∈ suppliedMembers entries) (spelled : name = key.wireName ∨ name = key.name) :
    entry.isSupplied := by
  obtain ⟨other, otherEntry, among, supplied, rfl, -⟩ := mem_suppliedMembers.1 written
  -- A member is written under the wire name of its own field, which spells no other one.
  by_cases here : other = key
  · have distinct : (entries.map Prod.fst).Nodup := separate.imp fun apart same => apart.1 (congrArg Key.name same)
    have same := List.inj_on_of_nodup_map distinct among field here
    cases same
    exact supplied
  · have apart := separate.forall (List.mem_map_of_mem among) (List.mem_map_of_mem field) here
    rcases spelled with wire | name
    · exact absurd wire apart.2.2.2
    · exact absurd name apart.2.2.1

theorem value?_suppliedMembers (field : (key, entry) ∈ entries) :
    key.value? (suppliedMembers entries) = if entry.isSupplied then some (entry.value?.getD .null) else none := by
  unfold Key.value?
  by_cases supplied : entry.isSupplied
  · have written := mem_suppliedMembers.2 ⟨key, entry, field, supplied, rfl, rfl⟩
    rw [(lastValue?_eq_some_iff (nodup_suppliedMembers separate)).2 written, if_pos supplied]
    rfl
  · have unwritten (name : Text) (spelled : name = key.wireName ∨ name = key.name) :
        lastValue? name (suppliedMembers entries) = none := by
      rw [lastValue?_eq_none_iff]
      rintro ⟨_, value⟩ written rfl
      exact supplied (isSupplied_of_mem_suppliedMembers separate field written spelled)
    rw [unwritten _ (.inl rfl), unwritten _ (.inr rfl), if_neg supplied]
    rfl

variable {coerce : Coercion α} {encode : α → Json} (reads : ∀ a, coerce (encode a) = .ok a)

include reads

/-- A required field is read back from what it is written as. -/
theorem required_supplied {a : α} (field : (key, .given (encode a)) ∈ entries) :
    required coerce key (suppliedMembers entries) = .accepted a := by
  rw [required_eq_accepted_iff, value?_suppliedMembers separate field]
  exact ⟨encode a, rfl, reads a⟩

/-- A field that may be absent is read back as it was, be it absent or null. -/
theorem optional_supplied (notNull : ∀ a, encode a ≠ .null) {entry : Entry α}
    (field : (key, entry.map encode) ∈ entries) :
    optional coerce key (suppliedMembers entries) = .accepted entry := by
  rw [optional_eq_accepted_iff, value?_suppliedMembers separate field]
  cases entry with
  | absent => exact .inl ⟨rfl, rfl⟩
  | null => exact .inr (.inl ⟨rfl, rfl⟩)
  | given a => exact .inr (.inr ⟨encode a, a, notNull a, rfl, reads a, rfl⟩)

end Supplied

section Told

/-- The field is supplied exactly where it has an effective value, and null exactly where that is null. -/
structure Tells (members : List (Text × Json)) (field : Key × Entry Json) : Prop where
  supplied : field.2.isSupplied ↔ field.1.value? members ≠ none
  null : field.2 = .null ↔ field.1.value? members = some .null

variable {coerce : Coercion α}

theorem tells_of_required {a : α} (read : required coerce key members = .accepted a)
    (strict : ∀ a, coerce .null ≠ .ok a) (value : Json) : Tells members (key, .given value) := by
  obtain ⟨effective, found, taken⟩ := required_eq_accepted_iff.1 read
  refine ⟨iff_of_true rfl ?_, iff_of_false nofun ?_⟩
  · rw [found]
    exact Option.some_ne_none effective
  · rw [found]
    rintro ⟨⟩
    exact strict a taken

theorem tells_of_optional {entry : Entry α} (read : optional coerce key members = .accepted entry)
    (encode : α → Json) : Tells members (key, entry.map encode) := by
  obtain ⟨found, rfl⟩ | ⟨found, rfl⟩ | ⟨effective, a, notNull, found, -, rfl⟩ := optional_eq_accepted_iff.1 read
  · refine ⟨iff_of_false nofun (not_not.2 found), iff_of_false nofun ?_⟩
    rw [found]
    nofun
  · refine ⟨iff_of_true rfl ?_, iff_of_true rfl found⟩
    rw [found]
    nofun
  · refine ⟨iff_of_true rfl ?_, iff_of_false nofun ?_⟩
    · rw [found]
      nofun
    · rw [found]
      rintro ⟨⟩
      exact notNull rfl

end Told

/-- A kind of payload that depends on the effective values of its fields alone, tells of each field what it was
supplied with, and is read back from what it is written as. -/
structure Transparent (keys : List Key) (ofJson : Json → Checked α) (entries : α → List (Key × Entry Json)) :
    Prop where
  agree : ∀ left right, (∀ key ∈ keys, key.value? left = key.value? right) →
    Agree keys left right (ofJson (.object left)) (ofJson (.object right))
  respelled : ∀ left right, Relation.ReflTransGen (Respelled keys) left right →
    Agree keys left right (ofJson (.object left)) (ofJson (.object right))
  tells : ∀ members p, ofJson (.object members) = .accepted p →
    (entries p).map Prod.fst = keys ∧ ∀ field ∈ entries p, Tells members field
  written : ∀ p, ofJson (suppliedObject (entries p)) = .accepted p

/-- Respellings change no effective value where no two fields share a spelling. -/
theorem Transparent.intro {keys : List Key} {ofJson : Json → Checked α} {entries : α → List (Key × Entry Json)}
    (separate : keys.Pairwise Key.Separate)
    (agree : ∀ left right, (∀ key ∈ keys, key.value? left = key.value? right) →
      Agree keys left right (ofJson (.object left)) (ofJson (.object right)))
    (tells : ∀ members p, ofJson (.object members) = .accepted p →
      (entries p).map Prod.fst = keys ∧ ∀ field ∈ entries p, Tells members field)
    (written : ∀ p, ofJson (suppliedObject (entries p)) = .accepted p) : Transparent keys ofJson entries where
  agree := agree
  respelled left right respelled := agree left right (value?_eq_of_respelled separate respelled)
  tells := tells
  written := written

section Scalars

theorem text_string (t : Text) : text (.string t) = .ok t := rfl

theorem number_double (d : Double) : number (.double d) = .ok d := rfl

theorem whole_int (n : Int) : whole (.int n) = .ok n := rfl

theorem notNull_string (t : Text) : Json.string t ≠ .null := nofun

theorem notNull_double (d : Double) : Json.double d ≠ .null := nofun

theorem notNull_int (n : Int) : Json.int n ≠ .null := nofun

end Scalars

namespace NewAnchor

def keys : List Key := [.accountReference, .anchorName, .homeDomain, .description]

theorem separate_keys : keys.Pairwise Key.Separate := by decide

theorem agree {left right : List (Text × Json)} (same : ∀ key ∈ keys, key.value? left = key.value? right) :
    Agree keys left right (ofJson (.object left)) (ofJson (.object right)) := by
  have account := Agree.required text (show Key.accountReference ∈ keys by decide) same
  have name := Agree.required text (show Key.anchorName ∈ keys by decide) same
  have domain := Agree.optional text (show Key.homeDomain ∈ keys by decide) same
  have description := Agree.optional text (show Key.description ∈ keys by decide) same
  exact (((account.map _).seq name).seq domain).seq description

theorem tells {p : NewAnchor} (read : ofJson (.object members) = .accepted p) :
    ∀ field ∈ p.entries, Tells members field := by
  obtain ⟨_, description, read₁, descriptionRead, rfl⟩ := Checked.seq_eq_accepted.1 read
  obtain ⟨_, domain, read₂, domainRead, rfl⟩ := Checked.seq_eq_accepted.1 read₁
  obtain ⟨_, name, read₃, nameRead, rfl⟩ := Checked.seq_eq_accepted.1 read₂
  obtain ⟨account, accountRead, rfl⟩ := Checked.map_eq_accepted.1 read₃
  simp only [entries, List.forall_mem_cons, List.not_mem_nil, IsEmpty.forall_iff, implies_true, and_true]
  exact ⟨tells_of_required accountRead nofun _, tells_of_required nameRead nofun _, tells_of_optional domainRead _,
    tells_of_optional descriptionRead _⟩

theorem ofJson_suppliedObject (p : NewAnchor) : ofJson (suppliedObject p.entries) = .accepted p := by
  have separate : (p.entries.map Prod.fst).Pairwise Key.Separate := separate_keys
  have account : required text .accountReference (suppliedMembers p.entries) = .accepted p.accountReference :=
    required_supplied separate text_string (by simp [entries])
  have name : required text .anchorName (suppliedMembers p.entries) = .accepted p.name :=
    required_supplied separate text_string (by simp [entries])
  have domain : optional text .homeDomain (suppliedMembers p.entries) = .accepted p.homeDomain :=
    optional_supplied separate text_string notNull_string (by simp [entries])
  have description : optional text .description (suppliedMembers p.entries) = .accepted p.description :=
    optional_supplied separate text_string notNull_string (by simp [entries])
  rw [suppliedObject_eq, ofJson, ofMembers, account, name, domain, description]
  rfl

theorem transparent : Transparent keys ofJson entries :=
  .intro separate_keys (fun _ _ => agree) (fun _ _ read => ⟨rfl, tells read⟩) ofJson_suppliedObject

end NewAnchor

namespace NewAsset

def keys : List Key := [.code, .issuer, .totalSupply, .numHolders]

theorem separate_keys : keys.Pairwise Key.Separate := by decide

theorem agree {left right : List (Text × Json)} (same : ∀ key ∈ keys, key.value? left = key.value? right) :
    Agree keys left right (ofJson (.object left)) (ofJson (.object right)) := by
  have code := Agree.required text (show Key.code ∈ keys by decide) same
  have issuer := Agree.optional text (show Key.issuer ∈ keys by decide) same
  have supply := Agree.optional number (show Key.totalSupply ∈ keys by decide) same
  have holders := Agree.optional whole (show Key.numHolders ∈ keys by decide) same
  exact (((code.map _).seq issuer).seq supply).seq holders

theorem tells {p : NewAsset} (read : ofJson (.object members) = .accepted p) :
    ∀ field ∈ p.entries, Tells members field := by
  obtain ⟨_, holders, read₁, holdersRead, rfl⟩ := Checked.seq_eq_accepted.1 read
  obtain ⟨_, supply, read₂, supplyRead, rfl⟩ := Checked.seq_eq_accepted.1 read₁
  obtain ⟨_, issuer, read₃, issuerRead, rfl⟩ := Checked.seq_eq_accepted.1 read₂
  obtain ⟨code, codeRead, rfl⟩ := Checked.map_eq_accepted.1 read₃
  simp only [entries, List.forall_mem_cons, List.not_mem_nil, IsEmpty.forall_iff, implies_true, and_true]
  exact ⟨tells_of_required codeRead nofun _, tells_of_optional issuerRead _, tells_of_optional supplyRead _,
    tells_of_optional holdersRead _⟩

theorem ofJson_suppliedObject (p : NewAsset) : ofJson (suppliedObject p.entries) = .accepted p := by
  have separate : (p.entries.map Prod.fst).Pairwise Key.Separate := separate_keys
  have code : required text .code (suppliedMembers p.entries) = .accepted p.code :=
    required_supplied separate text_string (by simp [entries])
  have issuer : optional text .issuer (suppliedMembers p.entries) = .accepted p.issuer :=
    optional_supplied separate text_string notNull_string (by simp [entries])
  have supply : optional number .totalSupply (suppliedMembers p.entries) = .accepted p.totalSupply :=
    optional_supplied separate number_double notNull_double (by simp [entries])
  have holders : optional whole .numHolders (suppliedMembers p.entries) = .accepted p.numHolders :=
    optional_supplied separate whole_int notNull_int (by simp [entries])
  rw [suppliedObject_eq, ofJson, ofMembers, code, issuer, supply, holders]
  rfl

theorem transparent : Transparent keys ofJson entries :=
  .intro separate_keys (fun _ _ => agree) (fun _ _ read => ⟨rfl, tells read⟩) ofJson_suppliedObject

end NewAsset

namespace MetricsUpdate

variable {p : MetricsUpdate}

def keys : List Key := Metric.all.map .ofMetric

theorem separate_keys : keys.Pairwise Key.Separate := by decide +kernel

theorem ofMetric_mem_keys (metric : Metric) : .ofMetric metric ∈ keys := List.mem_map_of_mem metric.mem_all

theorem agree {left right : List (Text × Json)} (same : ∀ key ∈ keys, key.value? left = key.value? right) :
    Agree keys left right (ofJson (.object left)) (ofJson (.object right)) := by
  have field {β : Type} (coerce : Coercion β) (metric : Metric) :=
    Agree.optional coerce (ofMetric_mem_keys metric) same
  have trust := field number .trustScore
  have reliability := field number .reliabilityScore
  have total := field whole .totalTransactions
  have successful := field whole .successfulTransactions
  have failed := field whole .failedTransactions
  have volume := field number .totalVolumeUsd
  have duration := field whole .avgSettlementTimeMs
  exact ((((((trust.map _).seq reliability).seq total).seq successful).seq failed).seq volume).seq duration

theorem tells (read : ofJson (.object members) = .accepted p) : ∀ field ∈ p.entries, Tells members field := by
  intro field among
  obtain ⟨metric, -, rfl⟩ := List.mem_map.1 among
  exact tells_of_optional (optional_coercion read metric) Json.ofNumber

theorem ofJson_suppliedObject (p : MetricsUpdate) : ofJson (suppliedObject p.entries) = .accepted p := by
  have fields : p.entries.map Prod.fst = keys := by rw [entries, List.map_map, keys]; rfl
  have separate : (p.entries.map Prod.fst).Pairwise Key.Separate := fields ▸ separate_keys
  have field (metric : Metric) {β : Type} {f : β → Number} {column : Entry β} (same : p.entry metric = column.map f) :
      (Key.ofMetric metric, column.map (Json.ofNumber ∘ f)) ∈ p.entries := by
    rw [← Entry.map_map, ← same]
    exact List.mem_map_of_mem metric.mem_all
  have score (metric : Metric) {column : Entry Double} (same : p.entry metric = column.map .double) :
      optional number (.ofMetric metric) (suppliedMembers p.entries) = .accepted column :=
    optional_supplied separate number_double notNull_double (field metric same)
  have count (metric : Metric) {column : Entry Int} (same : p.entry metric = column.map .int) :
      optional whole (.ofMetric metric) (suppliedMembers p.entries) = .accepted column :=
    optional_supplied separate whole_int notNull_int (field metric same)
  rw [suppliedObject_eq, ofJson, ofMembers, score .trustScore rfl, score .reliabilityScore rfl,
    count .totalTransactions rfl, count .successfulTransactions rfl, count .failedTransactions rfl,
    score .totalVolumeUsd rfl, count .avgSettlementTimeMs rfl]
  rfl

theorem transparent : Transparent keys ofJson entries := by
  refine .intro separate_keys (fun _ _ => agree) (fun _ p read => ⟨?_, tells read⟩) ofJson_suppliedObject
  rw [entries, List.map_map, keys]
  rfl

theorem mem_changes {metric : Metric} {value : Option Number} :
    (metric.name, value) ∈ p.changes ↔ p.supplies metric ∧ (p.entry metric).value? = value := by
  simp only [changes, List.mem_map, List.mem_filter, Metric.mem_all, true_and, Prod.mk.injEq]
  constructor
  · rintro ⟨other, supplied, same, rfl⟩
    cases Metric.name_injective same
    exact ⟨supplied, rfl⟩
  · rintro ⟨supplied, same⟩
    exact ⟨metric, supplied, rfl, same⟩

/-- The changes of an update tell absent, null and a value apart. -/
theorem changes_iff (read : ofJson (.object members) = .accepted p) (metric : Metric) :
    ((∀ value, (metric.name, value) ∉ p.changes) ↔ (Key.ofMetric metric).value? members = none) ∧
      ((metric.name, none) ∈ p.changes ↔ (Key.ofMetric metric).value? members = some .null) ∧
      ∀ n, (metric.name, some n) ∈ p.changes ↔ ∃ value, value ≠ .null ∧
        (Key.ofMetric metric).value? members = some value ∧ coercion metric value = .ok n := by
  simp only [mem_changes, supplies]
  obtain ⟨found, same⟩ | ⟨found, same⟩ | ⟨value, n, notNull, found, taken, same⟩ :=
    optional_eq_accepted_iff.1 (optional_coercion read metric)
  · simp [found, same, Entry.isSupplied]
  · simp [found, same, Entry.isSupplied, Entry.value?]
  · simp [found, same, Entry.isSupplied, Entry.value?, notNull, taken]

end MetricsUpdate

/-- All three payloads are transparent. Two objects with the same effective values, and so any two that respellings
lead from one to the other, are read as the same payload with the same fields supplied, or are refused for the same
faults, each told at the key that the object uses. An accepted payload supplies exactly the fields that have an
effective value, null included, and is read back from its supplied fields under their wire names. What an update
passes on leaves out a metric without a value, keeps null, and gives zero as the number that it is. -/
theorem payloads_transparent :
    Transparent NewAnchor.keys NewAnchor.ofJson NewAnchor.entries ∧
      Transparent MetricsUpdate.keys MetricsUpdate.ofJson MetricsUpdate.entries ∧
      Transparent NewAsset.keys NewAsset.ofJson NewAsset.entries ∧
      ∀ members p, MetricsUpdate.ofJson (.object members) = .accepted p → ∀ metric : Metric,
        ((∀ value, (metric.name, value) ∉ p.changes) ↔ (Key.ofMetric metric).value? members = none) ∧
        ((metric.name, none) ∈ p.changes ↔ (Key.ofMetric metric).value? members = some .null) ∧
        ∀ n, (metric.name, some n) ∈ p.changes ↔ ∃ value, value ≠ .null ∧
          (Key.ofMetric metric).value? members = some value ∧ MetricsUpdate.coercion metric value = .ok n :=
  ⟨NewAnchor.transparent, MetricsUpdate.transparent, NewAsset.transparent,
    fun _ _ read metric => MetricsUpdate.changes_iff read metric⟩

end AnchorRegistry.Payload

namespace AnchorRegistry

namespace Sample

/-- An update with a null and a zero. -/
def sparse : List (Text × Json) := [("trustScore", .null), ("totalTransactions", .int 0)]

/-- The same update in another order, with a name for a wire name, a key of no field and a name that is shadowed. -/
def respelled : List (Text × Json) :=
  [("total_transactions", .int 0), ("note", .bool true), ("trust_score", .int 1), ("trustScore", .null)]

def sparseUpdate : Payload.MetricsUpdate where
  trustScore := .null
  reliabilityScore := .absent
  totalTransactions := .given 0
  successfulTransactions := .absent
  failedTransactions := .absent
  totalVolumeUsd := .absent
  avgSettlementTimeMs := .absent

theorem ofJson_sparse : Payload.MetricsUpdate.ofJson (.object sparse) = .accepted sparseUpdate := by decide +kernel

theorem respellings : Relation.ReflTransGen (Payload.Respelled Payload.MetricsUpdate.keys) sparse respelled := by
  have trust := Payload.MetricsUpdate.ofMetric_mem_keys .trustScore
  have total := Payload.MetricsUpdate.ofMetric_mem_keys .totalTransactions
  have reordered : Payload.Respelled Payload.MetricsUpdate.keys sparse
      [("totalTransactions", .int 0), ("trustScore", .null)] := .reordered (by decide) (.swap _ _ [])
  have rekeyed : Payload.Respelled Payload.MetricsUpdate.keys
      [("totalTransactions", .int 0), ("trustScore", .null)]
      [("total_transactions", .int 0), ("trustScore", .null)] := .rekeyed total rfl
  have unknown : Payload.Respelled Payload.MetricsUpdate.keys
      [("total_transactions", .int 0), ("trustScore", .null)]
      [("total_transactions", .int 0), ("note", .bool true), ("trustScore", .null)] :=
    @Payload.Respelled.unknown _ [_] [_] "note" _ (by decide +kernel)
  have shadowed : Payload.Respelled Payload.MetricsUpdate.keys
      [("total_transactions", .int 0), ("note", .bool true), ("trustScore", .null)] respelled :=
    @Payload.Respelled.shadowed _ [_, _] [_] _ _ trust (by decide) nofun
  exact (((Relation.ReflTransGen.single reordered).tail rekeyed).tail unknown).tail shadowed

end Sample

/-- Both spellings are read as the one update, which passes on the null and the zero and nothing else. -/
theorem Payload.payloads_transparent_respelled :
    Payload.MetricsUpdate.ofJson (.object Sample.respelled) = .accepted Sample.sparseUpdate ∧
      (Metric.trustScore.name, none) ∈ Sample.sparseUpdate.changes ∧
      (Metric.totalTransactions.name, some (.int 0)) ∈ Sample.sparseUpdate.changes ∧
      (∀ value, (Metric.failedTransactions.name, value) ∉ Sample.sparseUpdate.changes) ∧
      Payload.MetricsUpdate.ofJson (suppliedObject Sample.sparseUpdate.entries) = .accepted Sample.sparseUpdate := by
  obtain ⟨-, transparent, -, changes⟩ := payloads_transparent
  have agree := transparent.respelled _ _ Sample.respellings
  rw [Sample.ofJson_sparse] at agree
  have told := changes _ _ Sample.ofJson_sparse
  refine ⟨?_, (told .trustScore).2.1.2 rfl, ((told .totalTransactions).2.2 _).2 ⟨.int 0, nofun, rfl, rfl⟩,
    (told .failedTransactions).1.2 rfl, transparent.written _⟩
  generalize Payload.MetricsUpdate.ofJson (.object Sample.respelled) = other at agree
  cases agree
  rfl

end AnchorRegistry
