import AnchorRegistry.Text.Basic
import Mathlib.Data.List.DropRight

/-! Trimming and stripping. Trimming drops code points at the ends only, so what is left is a part of the
text, and trimming again drops nothing. No surrogate is blank: a text and its stripped form are storable
together, and a check on one is a check on the other. -/

namespace AnchorRegistry

theorem CodePoint.isSurrogate_iff {c : CodePoint} : c.isSurrogate ↔ 0xD800 ≤ c.value ∧ c.value ≤ 0xDFFF := by
  simp only [isSurrogate, within, Bool.and_eq_true, decide_eq_true_eq]

theorem CodePoint.isBlank_of_isSurrogate {c : CodePoint} (surrogate : c.isSurrogate) : c.isBlank = false := by
  rw [isSurrogate_iff] at surrogate
  simp only [isBlank, isSpace, within, Bool.or_eq_false_iff, Bool.and_eq_false_iff, decide_eq_false_iff_not,
    beq_eq_false_iff_ne]
  omega

namespace Text

variable (p : CodePoint → Bool) (t : Text)

theorem trimBy_eq : t.trimBy p = (t.dropWhile p).rdropWhile p := rfl

theorem trimBy_sublist : (t.trimBy p).Sublist t :=
  (List.rdropWhile_prefix p _).sublist.trans (List.dropWhile_suffix p).sublist

/-- What is left of a text begins with nothing that is trimmed. -/
theorem dropWhile_trimBy : (t.trimBy p).dropWhile p = t.trimBy p := by
  rw [List.dropWhile_eq_self_iff]
  intro nonempty
  have inFront : t.trimBy p <+: t.dropWhile p := List.rdropWhile_prefix p _
  have bound : 0 < (t.dropWhile p).length := nonempty.trans_le inFront.length_le
  have same : (t.trimBy p)[0] = (t.dropWhile p)[0] := inFront.getElem nonempty
  rw [same]
  exact List.dropWhile_get_zero_not p t _

theorem trimBy_trimBy : (t.trimBy p).trimBy p = t.trimBy p := by
  rw [trimBy_eq p (t.trimBy p), dropWhile_trimBy, trimBy_eq, List.rdropWhile_idempotent]

/-- A code point that is not trimmed stays. -/
theorem mem_trimBy {p : CodePoint → Bool} {t : Text} {c : CodePoint} (member : c ∈ t) (kept : p c = false) :
    c ∈ t.trimBy p := by
  have afterFront : c ∈ t.dropWhile p := by
    rw [← List.takeWhile_append_dropWhile (p := p) (l := t), List.mem_append] at member
    rcases member with dropped | member
    · rw [List.mem_takeWhile_imp dropped] at kept
      cases kept
    · exact member
  rw [← List.mem_reverse, ← List.takeWhile_append_dropWhile (p := p) (l := (t.dropWhile p).reverse),
    List.mem_append] at afterFront
  rcases afterFront with dropped | member
  · rw [List.mem_takeWhile_imp dropped] at kept
    cases kept
  · exact List.mem_reverse.2 member

/-- A text at whose ends nothing is trimmed stays as it is. -/
theorem trimBy_eq_self {p : CodePoint → Bool} {t : Text} (front : ∀ c ∈ t.head?, p c = false)
    (back : ∀ c ∈ t.getLast?, p c = false) : t.trimBy p = t := by
  cases t with
  | nil => rfl
  | cons c rest =>
      have kept : (c :: rest).dropWhile p = c :: rest := by
        rw [List.dropWhile_cons, if_neg (by simpa using front c rfl)]
      rw [trimBy_eq, kept, List.rdropWhile_eq_self_iff]
      intro nonempty
      have last := back _ (List.getLast?_eq_getLast_of_ne_nil nonempty)
      simpa using last

@[simp] theorem strip_strip : t.strip.strip = t.strip := trimBy_trimBy _ t

theorem strip_sublist : t.strip.Sublist t := trimBy_sublist _ t

theorem storable_strip : t.strip.Storable ↔ t.Storable := by
  constructor
  · intro storable c member
    by_contra surrogate
    have surrogate : c.isSurrogate = true := by simpa using surrogate
    have stays : c ∈ t.strip := mem_trimBy member (CodePoint.isBlank_of_isSurrogate surrogate)
    rw [storable c stays] at surrogate
    cases surrogate
  · intro storable c member
    exact storable c ((strip_sublist t).subset member)

variable {t}

theorem strip_of_blank (blank : ∀ c ∈ t, c.isBlank) : t.strip = [] := by
  rw [strip, trimBy_eq, List.dropWhile_eq_nil_iff.2 blank]
  rfl

theorem strip?_eq_some_iff {stripped : Text} :
    t.strip? = some stripped ↔ t.strip = stripped ∧ stripped ≠ [] := by
  unfold strip?
  split
  · rename_i blank
    rw [blank]
    constructor
    · intro impossible
      cases impossible
    · rintro ⟨rfl, nonempty⟩
      exact (nonempty rfl).elim
  · rename_i nonempty
    constructor
    · intro same
      cases same
      exact ⟨rfl, nonempty⟩
    · rintro ⟨rfl, -⟩
      rfl

end Text

end AnchorRegistry
