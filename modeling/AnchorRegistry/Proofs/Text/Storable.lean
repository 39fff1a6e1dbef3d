import AnchorRegistry.Json.Value
import AnchorRegistry.Number
import AnchorRegistry.Identifier
import AnchorRegistry.Timestamp
import AnchorRegistry.Proofs.Text.Strip

/-! Texts that have an encoding. No character is a surrogate, so a text built from characters and digits
is storable, and gluing, cutting and padding keep it so. What the service itself writes into a response,
numbers, identifiers and times among it, can therefore always be sent. -/

namespace AnchorRegistry

@[simp] theorem CodePoint.isSurrogate_ofChar (char : Char) : (ofChar char).isSurrogate = false := by
  have valid : char.val.toNat < 0xD800 ∨ 0xDFFF < char.val.toNat ∧ char.val.toNat < 0x110000 := char.valid
  simp only [isSurrogate, within, Bool.and_eq_false_iff, decide_eq_false_iff_not]
  show ¬0xD800 ≤ char.val.toNat ∨ ¬char.val.toNat ≤ 0xDFFF
  omega

@[simp] theorem CodePoint.isSurrogate_ofDigit (value : Nat) : (ofDigit value).isSurrogate = false := by
  have zero : '0'.toNat = 48 := rfl
  have a : 'a'.toNat = 97 := rfl
  simp only [isSurrogate, within, Bool.and_eq_false_iff, decide_eq_false_iff_not]
  unfold ofDigit
  split <;> simp only <;> omega

namespace Text

@[simp] theorem storable_nil : Storable [] := by
  intro c member
  cases member

@[simp] theorem storable_cons {c : CodePoint} {t : Text} :
    Storable (c :: t) ↔ c.isSurrogate = false ∧ t.Storable := by
  simp only [Storable, List.forall_mem_cons]

@[simp] theorem storable_append {s t : Text} : Storable (s ++ t) ↔ s.Storable ∧ t.Storable := by
  simp only [Storable, List.forall_mem_append]

theorem Storable.ite {P : Prop} [Decidable P] {s t : Text} (first : s.Storable) (second : t.Storable) :
    Storable (if P then s else t) := by
  split
  · exact first
  · exact second

theorem Storable.sublist {s t : Text} (storable : t.Storable) (part : s.Sublist t) : s.Storable :=
  fun c member => storable c (part.subset member)

@[simp] theorem storable_ofString (s : String) : (ofString s).Storable := by
  intro c member
  obtain ⟨char, -, rfl⟩ := List.mem_map.1 member
  exact CodePoint.isSurrogate_ofChar char

@[simp] theorem storable_replicate (n : Nat) (char : Char) :
    Storable (List.replicate n (CodePoint.ofChar char)) := by
  intro c member
  rw [List.eq_of_mem_replicate member]
  exact CodePoint.isSurrogate_ofChar char

@[simp] theorem storable_ofNatIn (base n : Nat) : (ofNatIn base n).Storable := by
  intro c member
  obtain ⟨char, -, rfl⟩ := List.mem_map.1 member
  exact CodePoint.isSurrogate_ofChar char

@[simp] theorem storable_ofNat (n : Nat) : (ofNat n).Storable := storable_ofNatIn 10 n

@[simp] theorem storable_ofInt (n : Int) : (ofInt n).Storable := by
  cases n with
  | ofNat n => exact storable_ofNat n
  | negSucc n => exact storable_cons.2 ⟨CodePoint.isSurrogate_ofChar '-', storable_ofNat (n + 1)⟩

@[simp] theorem storable_ofHex (width n : Nat) : (ofHex width n).Storable := by
  induction width generalizing n with
  | zero => exact storable_nil
  | succ width ih => exact storable_append.2 ⟨ih _, by simp⟩

@[simp] theorem storable_padLeft (width : Nat) (filler : Char) {t : Text} :
    (t.padLeft width filler).Storable ↔ t.Storable := by
  simp [padLeft]

theorem storable_join {separator : Text} (storable : separator.Storable) {texts : List Text}
    (all : ∀ t ∈ texts, t.Storable) : (join separator texts).Storable := by
  induction texts with
  | nil => exact storable_nil
  | cons first rest ih =>
      have first_storable := all first List.mem_cons_self
      have rest_storable := ih fun t member => all t (List.mem_cons_of_mem _ member)
      cases rest with
      | nil => exact first_storable
      | cons second rest =>
          rw [join.eq_3 _ _ _ (by simp), storable_append, storable_append]
          exact ⟨⟨first_storable, storable⟩, rest_storable⟩

end Text

namespace Double

theorem storable_significant (decimal : Decimal) : (significant decimal).1.Storable :=
  (Text.storable_ofNat decimal.digits).sublist (List.rdropWhile_prefix _ (Text.ofNat decimal.digits)).sublist

theorem storable_place {digits : Text} (storable : digits.Storable) (point : Int) :
    (place digits point).Storable := by
  have front (n : Nat) : Text.Storable (digits.take n) := storable.sublist (List.take_sublist n digits)
  have tail (n : Nat) : Text.Storable (digits.drop n) := storable.sublist (List.drop_sublist n digits)
  simp only [place, exponentText, zeros]
  split_ifs <;>
    simp only [Text.storable_append, Text.storable_cons, Text.storable_ofString, Text.storable_ofNat,
      Text.storable_padLeft, Text.storable_replicate, Text.storable_nil, CodePoint.isSurrogate_ofChar, front,
      tail, storable, and_self]

@[simp] theorem storable_toText (d : Double) : d.toText.Storable := by
  cases d with
  | nan => exact Text.storable_ofString "nan"
  | infinite negative => exact .ite (Text.storable_ofString "-inf") (Text.storable_ofString "inf")
  | finite negative units representable =>
      have magnitude : Text.Storable (if units = 0 then "0.0" else
          place (significant (shortest units)).1 (significant (shortest units)).2) :=
        .ite (Text.storable_ofString "0.0") (storable_place (storable_significant _) _)
      exact .ite (Text.storable_cons.2 ⟨CodePoint.isSurrogate_ofChar '-', magnitude⟩) magnitude

end Double

@[simp] theorem Number.storable_toText (n : Number) : n.toText.Storable := by
  cases n with
  | int n => exact Text.storable_ofInt n
  | double d => exact Double.storable_toText d

@[simp] theorem EntityId.storable_toText (id : EntityId) : id.toText.Storable := by
  have digits : (Text.ofHex 32 id.value).Storable := Text.storable_ofHex 32 id.value
  unfold toText
  generalize Text.ofHex 32 id.value = t at digits
  have tail (n : Nat) : Text.Storable (t.drop n) := digits.sublist (List.drop_sublist n t)
  have cut (m n : Nat) : Text.Storable ((t.drop m).take n) := (tail m).sublist (List.take_sublist n _)
  apply Text.storable_join (Text.storable_ofString "-")
  simp only [List.forall_mem_cons, List.not_mem_nil, false_imp_iff, implies_true, and_true]
  exact ⟨cut 0 8, cut 8 4, cut 12 4, cut 16 4, tail 20⟩

@[simp] theorem Instant.storable_toText (instant : Instant) : instant.toText.Storable := by
  have padded (width n : Nat) : ((Text.ofNat n).padLeft width '0').Storable := by simp
  simp only [toText, Text.storable_append, Text.storable_ofString, padded, true_and]
  exact .ite Text.storable_nil (Text.storable_append.2 ⟨Text.storable_ofString ".", padded 6 _⟩)

@[simp] theorem Instant.storable_toUtcText (instant : Instant) : instant.toUtcText.Storable := by
  simp [toUtcText]

@[simp] theorem Timestamp.storable_toText (zone : String) (t : Timestamp) : (t.toText zone).Storable := by
  simp only [toText, Text.storable_append, Instant.storable_toText, true_and]
  exact .ite (Text.storable_ofString zone) Text.storable_nil

end AnchorRegistry
