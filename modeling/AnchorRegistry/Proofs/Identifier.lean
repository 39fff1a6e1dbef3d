import AnchorRegistry.Proofs.Spelling

/-! What a text that reads as an identifier holds. Nothing but blanks, marks, braces and hyphens is dropped before it
is read, and what is read holds digits, a sign, underscores and a mark of base sixteen. So a code point that is none
of these, a surrogate or a slash, is in no such text, which therefore has an encoding and is one segment of a
path. -/

namespace AnchorRegistry

section Foreign

/-- A code point that no identifier holds: no blank, no digit, and nothing that is dropped or read beside the
digits. -/
structure CodePoint.IsForeign (c : CodePoint) : Prop where
  blank : c.isBlank = false
  decimal : c.decimalValue? = none
  digit : Text.digitIn? 16 c = none
  unmarked : c ∉ ("urn:uuid:\x7b\x7d-+0xX_" : Text)

variable {c : CodePoint} {t : Text}

namespace CodePoint

theorem decimalValue?_of_isSurrogate (surrogate : c.isSurrogate) : c.decimalValue? = none := by
  rw [isSurrogate_iff] at surrogate
  have outside : ∀ first ∈ decimalZeros, first + 9 < 0xD800 ∨ 0xDFFF < first := by decide
  unfold decimalValue?
  rw [Option.map_eq_none_iff, List.find?_eq_none]
  intro first member
  have := outside first member
  simp only [within, Bool.and_eq_true, decide_eq_true_eq]
  omega

theorem digitIn?_of_isSurrogate (surrogate : c.isSurrogate) : Text.digitIn? 16 c = none := by
  rw [isSurrogate_iff] at surrogate
  have outside (low high : Nat) (below : high < 0xD800) : c.within low high = false := by
    simp only [within, Bool.and_eq_false_iff, decide_eq_false_iff_not]
    omega
  unfold Text.digitIn? hexValue?
  rw [outside _ _ (by decide), outside _ _ (by decide), outside _ _ (by decide)]
  rfl

theorem isForeign_of_isSurrogate (surrogate : c.isSurrogate) : c.IsForeign := by
  refine ⟨isBlank_of_isSurrogate surrogate, decimalValue?_of_isSurrogate surrogate,
    digitIn?_of_isSurrogate surrogate, fun among => ?_⟩
  obtain ⟨char, -, rfl⟩ := List.mem_map.1 among
  rw [isSurrogate_ofChar] at surrogate
  cases surrogate

theorem isForeign_slash : IsForeign '/' := ⟨by decide, by decide, by decide, by decide⟩

theorem IsForeign.ne (foreign : c.IsForeign) {mark : CodePoint}
    (listed : mark ∈ ("urn:uuid:\x7b\x7d-+0xX_" : Text)) : c ≠ mark :=
  fun same => foreign.unmarked (same ▸ listed)

theorem IsForeign.isNumeralSpace (foreign : c.IsForeign) : Text.isNumeralSpace c = false := by
  have ascii : c.isAsciiSpace = false := by
    by_contra space
    have blank := isBlank_of_isSpace (isSpace_of_isAsciiSpace (Bool.not_eq_false _ ▸ space))
    rw [foreign.blank] at blank
    cases blank
  rw [Text.isNumeralSpace, ascii, foreign.blank]
  rfl

end CodePoint

namespace Text

/-- Removing a pattern keeps a code point that is not in it. The code points still to be skipped are. -/
theorem mem_removeAll_go {first : CodePoint} {rest : Text} (other : c ∉ first :: rest) {skip : Nat}
    (skipped : ∀ d ∈ t.take skip, d ∈ first :: rest) (member : c ∈ t) : c ∈ removeAll.go (first :: rest) skip t := by
  induction t generalizing skip with
  | nil => cases member
  | cons d t ih =>
      cases skip with
      | succ skip =>
          rw [List.take_succ_cons, List.forall_mem_cons] at skipped
          rw [removeAll.go.eq_2]
          rcases List.mem_cons.1 member with rfl | later
          · exact (other skipped.1).elim
          · exact ih skipped.2 later
      | zero =>
          rw [removeAll.go.eq_3]
          split
          · rename_i found
            obtain ⟨same, after⟩ : first = d ∧ rest <+: t := by
              simpa [List.isPrefixOf_cons_cons, List.isPrefixOf_iff_prefix] using found
            rcases List.mem_cons.1 member with rfl | later
            · exact (other (same ▸ List.mem_cons_self)).elim
            · refine ih (fun e among => ?_) later
              rw [List.length_cons, Nat.add_sub_cancel, ← List.prefix_iff_eq_take.1 after] at among
              exact List.mem_cons_of_mem first among
          · rcases List.mem_cons.1 member with rfl | later
            · exact List.mem_cons_self
            · exact List.mem_cons_of_mem d (ih (by simp) later)

theorem mem_removeAll {first : CodePoint} {rest : Text} (other : c ∉ first :: rest) (member : c ∈ t) :
    c ∈ removeAll (first :: rest) t := mem_removeAll_go other (by simp) member

/-- Whatever is read in groups is a digit or an underscore. -/
theorem digit_of_readGroupedFrom {base total n : Nat} {digit? : CodePoint → Option Nat} {afterDigit : Bool}
    (read : readGroupedFrom base digit? afterDigit total t = some n) (member : c ∈ t) :
    c = '_' ∨ digit? c ≠ none := by
  induction t generalizing afterDigit total with
  | nil => cases member
  | cons d t ih =>
      rw [readGroupedFrom] at read
      split at read
      · rename_i underscore
        split at read
        · rcases List.mem_cons.1 member with rfl | later
          · exact .inl underscore
          · exact ih read later
        · cases read
      · split at read
        · rename_i value digit
          rcases List.mem_cons.1 member with rfl | later
          · exact .inr (by rw [digit]; exact Option.some_ne_none value)
          · exact ih read later
        · cases read

theorem mem_splitSign (foreign : c.IsForeign) (member : c ∈ t) : c ∈ (splitSign t).2 := by
  cases t with
  | nil => cases member
  | cons d t =>
      rw [splitSign]
      rcases List.mem_cons.1 member with rfl | later
      · rw [if_neg (foreign.ne (by decide)), if_neg (foreign.ne (by decide))]
        exact List.mem_cons_self
      · split
        · exact later
        · split
          · exact later
          · exact member

theorem mem_dropHexMark (foreign : c.IsForeign) (member : c ∈ t) : c ∈ dropHexMark t := by
  have zero : c ≠ '0' := foreign.ne (by decide)
  have lower : c ≠ 'x' := foreign.ne (by decide)
  have upper : c ≠ 'X' := foreign.ne (by decide)
  have bar : c ≠ '_' := foreign.ne (by decide)
  unfold dropHexMark
  split
  · rename_i first second rest
    split
    · rename_i mark
      have later : c ∈ rest := by
        rcases List.mem_cons.1 member with rfl | member
        · exact (zero mark.1).elim
        · rcases List.mem_cons.1 member with rfl | member
          · exact (mark.2.elim lower upper).elim
          · exact member
      cases rest with
      | nil => cases later
      | cons d more =>
          simp only
          split
          · rename_i underscore
            rcases List.mem_cons.1 later with rfl | member
            · exact (bar underscore).elim
            · exact member
          · exact later
    · exact member
  · exact member

theorem mem_asciiDigits (foreign : c.IsForeign) (member : c ∈ t) : c ∈ asciiDigits t := by
  refine List.mem_map.2 ⟨c, member, ?_⟩
  rw [foreign.decimal]

/-- What reads as a number in base sixteen holds nothing foreign. -/
theorem not_mem_of_readLenient? {n : Int} (read : readLenient? 16 t = some n) (foreign : c.IsForeign) : c ∉ t := by
  intro member
  have left := mem_dropHexMark foreign
    (mem_splitSign foreign (mem_asciiDigits foreign (mem_trimBy member foreign.isNumeralSpace)))
  unfold readLenient? at read
  simp only [reduceIte] at read
  split at read
  · cases read
  · obtain ⟨value, grouped, -⟩ := Option.map_eq_some_iff.1 read
    rcases digit_of_readGroupedFrom grouped left with underscore | digit
    · exact foreign.ne (by decide) underscore
    · exact digit foreign.digit

end Text

namespace EntityId

variable {raw : Text} {id : EntityId}

/-- A text that reads as an identifier holds nothing foreign, for nothing foreign is dropped before it is read. -/
theorem not_mem_of_parse? (read : parse? raw = some id) (foreign : c.IsForeign) : c ∉ raw := by
  intro member
  have absent : c ∉ core raw := by
    unfold parse? at read
    split at read
    · split at read
      · rename_i number
        exact Text.not_mem_of_readLenient? number foreign
      · cases read
    · cases read
  have unlisted (pattern : Text) (listed : pattern ⊆ ("urn:uuid:\x7b\x7d-+0xX_" : Text)) : c ∉ pattern :=
    fun among => foreign.unmarked (listed among)
  have stripped : c ∈ raw.strip := Text.mem_trimBy member foreign.blank
  have unmarked := Text.mem_removeAll (unlisted "uuid:" (by decide))
    (Text.mem_removeAll (unlisted "urn:" (by decide)) stripped)
  refine absent (Text.mem_removeAll (unlisted "-" (by decide)) (Text.mem_trimBy unmarked ?_))
  rw [Bool.or_eq_false_iff, decide_eq_false_iff_not, decide_eq_false_iff_not]
  exact ⟨foreign.ne (by decide), foreign.ne (by decide)⟩

theorem storable_of_parse? (read : parse? raw = some id) : raw.Storable := by
  intro c member
  by_contra surrogate
  rw [Bool.not_eq_false] at surrogate
  exact not_mem_of_parse? read (CodePoint.isForeign_of_isSurrogate surrogate) member

end EntityId

end Foreign

end AnchorRegistry
