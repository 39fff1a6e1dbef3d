import AnchorRegistry.Proofs.Legal
import AnchorRegistry.Proofs.Listing

/-! Creating a row depends on the normalised values of its payload. The checks strip a text by themselves, the
row strips it again where it is built, and the account of a conflict is the stripped one: `SameNormal` says of
two payloads that these three cannot tell them apart, and what a call of either does is then the same. A check
measures what will be stored, so that a payload is accepted exactly when the row to be written is legal. -/

namespace AnchorRegistry

namespace Payload

/-- The same profile once it is stripped, where a blank domain is none. -/
structure NewAnchor.SameNormal (p q : NewAnchor) : Prop where
  accountReference : p.accountReference.strip = q.accountReference.strip
  name : p.name.strip = q.name.strip
  homeDomain : p.homeDomain.value?.bind Text.strip? = q.homeDomain.value?.bind Text.strip?
  description : p.description.value? = q.description.value?

/-- The same asset once it is stripped, where a blank issuer is none and no number of holders is zero of them. -/
structure NewAsset.SameNormal (p q : NewAsset) : Prop where
  code : p.code.strip = q.code.strip
  issuer : p.issuer.value?.bind Text.strip? = q.issuer.value?.bind Text.strip?
  totalSupply : p.totalSupply.value? = q.totalSupply.value?
  numHolders : p.numHolders.getD 0 = q.numHolders.getD 0

end Payload

theorem Text.length_strip?_getD (t : Text) : (t.strip?.getD []).length = t.strip.length := by
  unfold strip?
  split
  · rename_i blank
    rw [blank]
    rfl
  · rfl

/-- A text that may be blank is short if it fits where it is not. -/
theorem Text.short_of_fits {limit : Nat} {value : Option Text} (fits : ∀ t ∈ value.bind strip?, t.Fits limit) :
    ∀ t ∈ value, t.strip.length ≤ limit := by
  intro t given
  cases stored : t.strip? with
  | none =>
      rw [← length_strip?_getD, stored]
      exact Nat.zero_le limit
  | some s =>
      obtain ⟨rfl, -⟩ := strip?_eq_some_iff.1 stored
      exact (fits _ (Option.bind_eq_some_iff.2 ⟨t, given, stored⟩)).short

namespace Validation

section Texts

variable {field : Text}

theorem requiredText_congr {t u : Text} {limit : Number} (same : t.strip = u.strip) :
    requiredText (some t) field limit = requiredText (some u) field limit := by
  simp only [requiredText, optionalText, same]

/-- What the check of an optional text finds is found in the text to be stored, and in none it finds nothing. -/
theorem optionalText_eq_bind (value : Option Text) (limit : Nat) :
    optionalText value field (.int limit) = (value.bind Text.strip?).bind fun stored =>
      if limit < stored.length then some (.fieldTooLong field (.int limit)) else none := by
  cases value with
  | none => rfl
  | some t =>
      simp only [optionalText, Number.less_int, decide_eq_true_eq, Nat.cast_lt, Option.bind_some]
      cases stored : t.strip? with
      | none =>
          -- Nothing is stored for a blank text, and no limit is below its length.
          have short : ¬limit < t.strip.length := by
            rw [← Text.length_strip?_getD, stored]
            exact Nat.not_lt_zero limit
          rw [if_neg short, Option.bind_none]
      | some s =>
          obtain ⟨rfl, -⟩ := Text.strip?_eq_some_iff.1 stored
          rw [Option.bind_some]

theorem optionalText_congr {value other : Option Text} {limit : Nat}
    (same : value.bind Text.strip? = other.bind Text.strip?) :
    optionalText value field (.int limit) = optionalText other field (.int limit) := by
  rw [optionalText_eq_bind, optionalText_eq_bind, same]

/-- A required text is accepted exactly when the text to be stored is there and fits. -/
theorem requiredText_accepts (t : Text) (limit : Int) :
    requiredText (some t) field (.int limit) = none ↔ t.strip ≠ [] ∧ (t.strip.length : Int) ≤ limit := by
  by_cases blank : t.strip = []
  · simp [requiredText, blank]
  · simp [requiredText, optionalText, blank]

/-- An optional text is accepted exactly when the text to be stored fits, be it none. -/
theorem optionalText_accepts (t : Text) (limit : Int) :
    optionalText (some t) field (.int limit) = none ↔ ((t.strip?.getD []).length : Int) ≤ limit := by
  rw [Text.length_strip?_getD]
  simp [optionalText]

end Texts

/-- No number passes the checks of a count as zero does. -/
theorem count_getD (entry : Payload.Entry Int) (field : Text) :
    nonNegative (entry.value?.map .int) field = nonNegative (some (.int (entry.getD 0))) field ∧
      upperBound (entry.value?.map .int) field (.int maxCount) =
        upperBound (some (.int (entry.getD 0))) field (.int maxCount) := by
  have accepted : nonNegative (some (.int 0)) field = none ∧
      upperBound (some (.int 0)) field (.int maxCount) = none := by
    have nonneg : (0 : Int) ≤ 0 * unitsPerOne := by rw [zero_mul]
    refine ⟨nonNegative_eq_none.2 ⟨_, rfl, nonneg⟩, ?_⟩
    rw [upperBound, Number.less_int, decide_eq_false (not_lt.2 isCount_zero.2)]
    rfl
  cases entry with
  | given n => exact ⟨rfl, rfl⟩
  | _ => exact ⟨accepted.1.symm, accepted.2.symm⟩

end Validation

namespace Repository

section Anchors

variable {p q : Payload.NewAnchor}

theorem violation_anchor_congr (same : p.SameNormal q) : p.violation = q.violation := by
  have domain : Validation.optionalText p.homeDomain.value? "home_domain" Validation.maxHomeDomain =
    Validation.optionalText q.homeDomain.value? "home_domain" Validation.maxHomeDomain :=
    Validation.optionalText_congr same.homeDomain
  rw [Payload.NewAnchor.violation, Payload.NewAnchor.violation, Validation.anchor, Validation.anchor,
    Validation.requiredText_congr same.accountReference, Validation.requiredText_congr same.name, domain]

theorem anchorRow_congr (same : p.SameNormal q) : anchorRow p = anchorRow q := by
  funext id now
  rw [anchorRow, anchorRow, same.accountReference, same.name, same.homeDomain, same.description]

theorem createAnchor_congr (same : p.SameNormal q) : createAnchor p = createAnchor q := by
  have checked : Validation.anchor (some p.accountReference) (some p.name) p.homeDomain.value? =
    Validation.anchor (some q.accountReference) (some q.name) q.homeDomain.value? := violation_anchor_congr same
  rw [createAnchor, createAnchor, checked, anchorRow_congr same]

/-- A profile is accepted exactly when its row is legal. -/
theorem anchorRow_legal_iff (p : Payload.NewAnchor) (id : EntityId) (now : Instant) :
    p.violation = none ↔ (anchorRow p id now).Legal := by
  refine ⟨fun valid => legal_anchorRow valid id now, fun legal => Validation.anchor_eq_none.2 ⟨?_, ?_, ?_⟩⟩
  · exact ⟨legal.accountReference.nonempty, legal.accountReference.short⟩
  · exact ⟨legal.name.nonempty, legal.name.short⟩
  · exact Text.short_of_fits legal.homeDomain

end Anchors

section Assets

variable {p q : Payload.NewAsset}

theorem violation_asset_congr (same : p.SameNormal q) : p.violation = q.violation := by
  obtain ⟨nonNegative, upperBound⟩ := Validation.count_getD p.numHolders "num_holders"
  obtain ⟨nonNegative', upperBound'⟩ := Validation.count_getD q.numHolders "num_holders"
  have issuer : Validation.optionalText p.issuer.value? "issuer" Validation.maxIssuer =
    Validation.optionalText q.issuer.value? "issuer" Validation.maxIssuer :=
    Validation.optionalText_congr same.issuer
  rw [Payload.NewAsset.violation, Payload.NewAsset.violation, Validation.asset, Validation.asset,
    Validation.requiredText_congr same.code, issuer, same.totalSupply, nonNegative, nonNegative', upperBound,
    upperBound', same.numHolders]

theorem assetRow_congr (same : p.SameNormal q) : assetRow p = assetRow q := by
  funext owner id now
  rw [assetRow, assetRow, same.code, same.issuer, same.totalSupply, same.numHolders]

theorem createAsset_congr (raw : Text) (same : p.SameNormal q) : createAsset raw p = createAsset raw q := by
  have checked : Validation.asset (some p.code) p.issuer.value? (p.totalSupply.value?.map .double)
      (p.numHolders.value?.map .int) = Validation.asset (some q.code) q.issuer.value?
      (q.totalSupply.value?.map .double) (q.numHolders.value?.map .int) := violation_asset_congr same
  rw [createAsset, createAsset, checked, assetRow_congr same]

/-- An asset is accepted exactly when its row is legal. -/
theorem assetRow_legal_iff (p : Payload.NewAsset) (owner id : EntityId) (now : Instant) :
    p.violation = none ↔ (assetRow p owner id now).Legal := by
  refine ⟨fun valid => legal_assetRow valid owner id now, fun legal => Validation.asset_eq_none.2 ⟨?_, ?_, ?_, ?_⟩⟩
  · exact ⟨legal.code.nonempty, legal.code.short⟩
  · exact Text.short_of_fits legal.issuer
  · exact legal.totalSupply
  · intro n given
    have holders := legal.numHolders
    rw [assetRow, Payload.Entry.getD, given] at holders
    exact holders

end Assets

/-- Two profiles with the same normalised values are created alike in every state, and so are two assets under one
anchor: with the same fresh identifier and clock the calls return the same row or the same failure and leave the same
store, whatever fails on the way. The checks measure the text that the row will hold: a required one is accepted
exactly when this is not empty and not too long, an optional one when it is not too long, none counting as empty.
So a payload is accepted exactly when the row that would be written for it is legal. -/
theorem creation_normalised :
    (∀ p q : Payload.NewAnchor, p.SameNormal q → ∀ c connection,
      (Invocation.createAnchor p).run c connection = (Invocation.createAnchor q).run c connection) ∧
    (∀ raw, ∀ p q : Payload.NewAsset, p.SameNormal q → ∀ c connection,
      (Invocation.createAsset raw p).run c connection = (Invocation.createAsset raw q).run c connection) ∧
    (∀ t field (limit : Int), Validation.requiredText (some t) field (.int limit) = none ↔
      t.strip ≠ [] ∧ (t.strip.length : Int) ≤ limit) ∧
    (∀ t field (limit : Int), Validation.optionalText (some t) field (.int limit) = none ↔
      ((t.strip?.getD []).length : Int) ≤ limit) ∧
    (∀ (p : Payload.NewAnchor) id now, p.violation = none ↔ (anchorRow p id now).Legal) ∧
    ∀ (p : Payload.NewAsset) owner id now, p.violation = none ↔ (assetRow p owner id now).Legal := by
  refine ⟨fun p q same c connection => ?_, fun raw p q same c connection => ?_,
    fun t field limit => Validation.requiredText_accepts t limit,
    fun t field limit => Validation.optionalText_accepts t limit, anchorRow_legal_iff, assetRow_legal_iff⟩
  · have actions : (Invocation.createAnchor p).action = (Invocation.createAnchor q).action :=
      congrArg (Functor.map Rows.anchor) (createAnchor_congr same)
    rw [Invocation.run, Invocation.run, actions]
  · have actions : (Invocation.createAsset raw p).action = (Invocation.createAsset raw q).action :=
      congrArg (Functor.map Rows.asset) (createAsset_congr raw same)
    rw [Invocation.run, Invocation.run, actions]

end Repository

namespace Sample

/-- The profile of the sample with other blanks, and with a domain of blanks only. -/
def padded : Payload.NewAnchor where
  accountReference := "GACME\t\n"
  name := "\u2003Acme\u00a0"
  homeDomain := .given " \u3000 "
  description := .absent

/-- The asset of the sample with blanks around its code and as its issuer. -/
def paddedToken : Payload.NewAsset where
  code := "\rUSD "
  issuer := .given "\t"
  totalSupply := .null
  numHolders := .given 0

theorem sameNormal_padded : profile.SameNormal padded :=
  ⟨by decide, by decide, by decide, by decide⟩

theorem sameNormal_paddedToken : token.SameNormal paddedToken :=
  ⟨by decide, by decide, by decide, by decide⟩

end Sample

/-- The padded profile is registered with the row of the profile itself, and the padded asset is issued with the row
of the asset. -/
theorem Repository.creation_normalised_padded :
    ((Invocation.createAnchor Sample.padded).run Sample.circumstances Sample.start).1 =
        .ok (.anchor (anchorRow Sample.profile Sample.anchorId ⟨5⟩)) ∧
      ((Invocation.createAsset Sample.anchorId.toText Sample.paddedToken).run Sample.issuing Sample.registered).1 =
        .ok (.asset (assetRow Sample.token Sample.anchorId Sample.assetId ⟨6⟩)) := by
  obtain ⟨anchors, assets, -⟩ := creation_normalised
  rw [← anchors _ _ Sample.sameNormal_padded, ← assets _ _ _ Sample.sameNormal_paddedToken]
  decide +kernel

end AnchorRegistry
