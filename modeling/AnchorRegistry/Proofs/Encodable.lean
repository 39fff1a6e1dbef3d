import AnchorRegistry.Proofs.Repository
import AnchorRegistry.Proofs.Text.Storable

/-! Which rows can be stored. A row binds its texts, and each of them has an encoding or the row is not stored;
since stripping takes no surrogates away, the row of a payload has an encoding exactly when the payload has. -/

namespace AnchorRegistry

theorem Anchor.storable_texts {a : Anchor} :
    (∀ t ∈ a.texts, t.Storable) ↔ a.accountReference.Storable ∧ a.name.Storable ∧
      (∀ t ∈ a.homeDomain, t.Storable) ∧ ∀ t ∈ a.description, t.Storable := by
  simp only [texts, List.forall_mem_append, List.forall_mem_cons, Option.mem_toList]
  constructor
  · rintro ⟨⟨⟨account, name, -⟩, domain⟩, description⟩
    exact ⟨account, name, domain, description⟩
  · rintro ⟨account, name, domain, description⟩
    exact ⟨⟨⟨account, name, List.forall_mem_nil _⟩, domain⟩, description⟩

theorem Asset.storable_texts {a : Asset} :
    (∀ t ∈ a.texts, t.Storable) ↔ a.code.Storable ∧ ∀ t ∈ a.issuer, t.Storable := by
  simp only [texts, List.forall_mem_append, List.forall_mem_singleton, Option.mem_toList]
  rfl

namespace Payload

/-- Every text that the payload gives for the row has an encoding. -/
def NewAnchor.Encodable (p : NewAnchor) : Prop :=
  p.accountReference.Storable ∧ p.name.Storable ∧ (∀ t ∈ p.homeDomain.value?, t.Storable) ∧
    ∀ t ∈ p.description.value?, t.Storable

instance (p : NewAnchor) : Decidable p.Encodable := inferInstanceAs (Decidable (_ ∧ _ ∧ _ ∧ _))

def NewAsset.Encodable (p : NewAsset) : Prop := p.code.Storable ∧ ∀ t ∈ p.issuer.value?, t.Storable

end Payload

theorem Text.storable_bind_strip? {value : Option Text} :
    (∀ t ∈ value.bind strip?, t.Storable) ↔ ∀ t ∈ value, t.Storable := by
  cases value with
  | none => simp
  | some t =>
      by_cases blank : t.strip = []
      · have storable : t.Storable := (storable_strip t).1 (blank ▸ storable_nil)
        simp [strip?, blank, storable]
      · simp [strip?, blank, storable_strip]

/-- Stripping takes no surrogates away, so a row has an encoding exactly when its payload has. -/
theorem Repository.storable_anchorRow {p : Payload.NewAnchor} {id : EntityId} {now : Instant} :
    (∀ t ∈ (anchorRow p id now).texts, t.Storable) ↔ p.Encodable := by
  rw [Anchor.storable_texts]
  simp only [anchorRow, Payload.NewAnchor.Encodable, Text.storable_strip, Text.storable_bind_strip?]

theorem Repository.storable_assetRow {p : Payload.NewAsset} {owner id : EntityId} {now : Instant} :
    (∀ t ∈ (assetRow p owner id now).texts, t.Storable) ↔ p.Encodable := by
  rw [Asset.storable_texts]
  simp only [assetRow, Payload.NewAsset.Encodable, Text.storable_strip, Text.storable_bind_strip?]

end AnchorRegistry
