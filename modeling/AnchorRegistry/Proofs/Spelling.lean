import AnchorRegistry.Identifier
import AnchorRegistry.Proofs.Text.Storable
import Mathlib.Algebra.Order.Ring.Nat

/-! Spellings of an identifier. Its 32 digits, each letter in either case, may have hyphens anywhere among them,
braces around them, a mark in front, braces around that, and blanks at the ends. What may be added is never a
digit, so dropping it leaves exactly the digits, and these are read as the number they were written for. The
canonical spelling is one of them. Of any other text that is read the same is left, 32 code points without a
hyphen: their number has no sign and is never too wide, so a text reads as an identifier exactly when what is
left of it is a numeral of that length. -/

namespace AnchorRegistry

/-- A lower-case hexadecimal digit. -/
def CodePoint.IsHexDigit (c : CodePoint) : Prop := ∃ value < 16, c = ofDigit value

namespace CodePoint

/-- The digits of base sixteen, their letters in either case. -/
def hexDigits : Text := "0123456789abcdefABCDEF"

theorem isHexDigit_ofDigit (n : Nat) : (ofDigit n).IsHexDigit := by
  refine ⟨n % 16, Nat.mod_lt n (by decide), ?_⟩
  unfold ofDigit
  simp only [Nat.mod_mod]

theorem digitIn?_ofDigit (n : Nat) : Text.digitIn? 16 (ofDigit n) = some (n % 16) := by
  have small : n % 16 < 16 := Nat.mod_lt n (by decide)
  have same : ofDigit n = ofDigit (n % 16) := by
    unfold ofDigit
    simp only [Nat.mod_mod]
  have all : ∀ value < 16, Text.digitIn? 16 (ofDigit value) = some value := by decide
  rw [same, all _ small]

variable {c : CodePoint}

theorem IsHexDigit.ne (digit : c.IsHexDigit) {other : CodePoint} (foreign : ∀ value < 16, ofDigit value ≠ other) :
    c ≠ other := by
  obtain ⟨value, small, rfl⟩ := digit
  exact foreign value small

theorem ofNat?_value (c : CodePoint) : ofNat? c.value = some c := dif_pos c.isLt

/-- What has a digit as its lower case is a digit in one of the two cases. -/
theorem mem_hexDigits_of_lowerAscii (digit : ∀ d ∈ Text.lowerAscii [c], d.IsHexDigit) : c ∈ hexDigits := by
  have lowerCase : ∀ value < 16, ofDigit value ∈ hexDigits := by decide
  have upperCase : ∀ value < 16, ∀ u ∈ ofNat? ((ofDigit value).value - 32), u.within 'A'.toNat 'Z'.toNat →
      u ∈ hexDigits := by decide
  simp only [Text.lowerAscii, List.map_cons, List.map_nil, List.mem_singleton, forall_eq] at digit
  split at digit
  · rename_i capital
    obtain ⟨value, small, same⟩ := digit
    have code : (ofDigit value).value - 32 = c.value := by
      rw [← same]
      exact Nat.add_sub_cancel c.value 32
    refine upperCase value small c ?_ capital
    rw [code]
    exact ofNat?_value c
  · obtain ⟨value, small, rfl⟩ := digit
    exact lowerCase value small

end CodePoint

namespace Text

section Dropping

variable {p : CodePoint → Bool} {t : Text}

/-- A text in which nothing is trimmed stays as it is. -/
theorem trimBy_eq_self_of_forall (none : ∀ c ∈ t, p c = false) : t.trimBy p = t :=
  trimBy_eq_self (fun c front => none c (List.mem_of_head? front)) fun c back => none c (List.mem_of_getLast? back)

/-- What is put around such a text is trimmed off again. -/
theorem trimBy_append {front back : Text} (around : ∀ c ∈ front ++ back, p c) (none : ∀ c ∈ t, p c = false) :
    (front ++ (t ++ back)).trimBy p = t := by
  rw [List.forall_mem_append] at around
  unfold trimBy
  rw [List.dropWhile_append_of_pos around.1]
  cases t with
  | nil =>
      rw [List.nil_append, List.dropWhile_eq_nil_iff.2 around.2]
      rfl
  | cons c rest =>
      have kept : (c :: rest ++ back).dropWhile p = c :: rest ++ back := by
        rw [List.cons_append, List.dropWhile_cons_of_neg]
        rw [none c List.mem_cons_self]
        exact Bool.false_ne_true
      rw [kept, List.reverse_append, List.dropWhile_append_of_pos fun c member =>
        around.2 c (List.mem_reverse.1 member)]
      have whole := trimBy_eq_self_of_forall none
      rw [trimBy, List.dropWhile_cons_of_neg] at whole
      · exact whole
      · rw [none c List.mem_cons_self]
        exact Bool.false_ne_true

variable {first : CodePoint} {rest : Text}

theorem removeAll_cons {pattern : Text} {c : CodePoint} (elsewhere : pattern.isPrefixOf (c :: t) = false) :
    removeAll pattern (c :: t) = c :: removeAll pattern t := by
  unfold removeAll
  rw [removeAll.go.eq_3, elsewhere, if_neg Bool.false_ne_true]

/-- Where the first code point of a pattern does not occur, no occurrence of the pattern begins. -/
theorem removeAll_append {front : Text} (absent : first ∉ front) (t : Text) :
    removeAll (first :: rest) (front ++ t) = front ++ removeAll (first :: rest) t := by
  induction front with
  | nil => rfl
  | cons c front ih =>
      have other : first ≠ c := fun same => absent (same ▸ List.mem_cons_self)
      rw [List.cons_append, removeAll_cons, ih fun member => absent (List.mem_cons_of_mem c member)]
      · rfl
      · simp [List.isPrefixOf, other]

theorem removeAll_eq_self (absent : first ∉ t) : removeAll (first :: rest) t = t := by
  have whole : removeAll (first :: rest) (t ++ []) = t ++ removeAll (first :: rest) [] := removeAll_append absent []
  rw [List.append_nil] at whole
  rw [whole]
  exact List.append_nil t

theorem removeAll_go_length (pattern found t : Text) :
    removeAll.go pattern found.length (found ++ t) = removeAll.go pattern 0 t := by
  induction found with
  | nil => rfl
  | cons c found ih => exact ih

/-- A pattern at the beginning of a text is removed. -/
theorem removeAll_self_append (t : Text) :
    removeAll (first :: rest) ((first :: rest) ++ t) = removeAll (first :: rest) t := by
  unfold removeAll
  have begins : (first :: rest).isPrefixOf (first :: (rest ++ t)) := by
    rw [List.isPrefixOf_iff_prefix]
    exact List.prefix_append _ t
  rw [List.cons_append, removeAll.go.eq_3, if_pos begins]
  exact removeAll_go_length _ rest t

theorem removeAll_singleton (c : CodePoint) (t : Text) : removeAll [c] t = t.filter fun d => d != c := by
  unfold removeAll
  induction t with
  | nil => rfl
  | cons d t ih =>
      rw [removeAll.go.eq_3, List.filter_cons, ← ih]
      by_cases same : d = c
      · simp [List.isPrefixOf, same]
      · simp [List.isPrefixOf, same, Ne.symm same]

end Dropping

section Digits

theorem mem_ofHex {width n : Nat} {c : CodePoint} (member : c ∈ ofHex width n) : c.IsHexDigit := by
  induction width generalizing n with
  | zero => cases member
  | succ width ih =>
      rw [ofHex, List.mem_append, List.mem_singleton] at member
      rcases member with front | rfl
      · exact ih front
      · exact CodePoint.isHexDigit_ofDigit n

@[simp] theorem length_ofHex (width n : Nat) : (ofHex width n).length = width := by
  induction width generalizing n with
  | zero => rfl
  | succ width ih => rw [ofHex, List.length_append, ih, List.length_singleton]

@[simp] theorem length_lowerAscii (t : Text) : t.lowerAscii.length = t.length := List.length_map _

theorem lowerAscii_ofHex (width n : Nat) : (ofHex width n).lowerAscii = ofHex width n := by
  have lower : ∀ value < 16, lowerAscii [CodePoint.ofDigit value] = [CodePoint.ofDigit value] := by decide
  refine (List.map_congr_left fun c member => ?_).trans (List.map_id _)
  obtain ⟨value, small, rfl⟩ := mem_ofHex member
  exact List.head_eq_of_cons_eq (lower value small)

variable {t : Text}

/-- A text is spelled with digits in either case if its lower case is written with digits. -/
theorem subset_hexDigits {width n : Nat} (lower : t.lowerAscii = ofHex width n) : t ⊆ CodePoint.hexDigits := by
  intro c member
  have part : lowerAscii [c] ⊆ ofHex width n := by
    rw [← lower]
    exact List.map_subset _ (List.cons_subset.2 ⟨member, List.nil_subset t⟩)
  exact CodePoint.mem_hexDigits_of_lowerAscii fun d single => mem_ofHex (part single)

/-- Reading goes through written digits to what follows them. -/
theorem readGroupedFrom_ofHex (width n total : Nat) (afterDigit : Bool) (rest : Text) :
    readGroupedFrom 16 (digitIn? 16) afterDigit total (ofHex width n ++ rest) =
      readGroupedFrom 16 (digitIn? 16) (afterDigit || 0 < width) (total * 16 ^ width + n % 16 ^ width) rest := by
  induction width generalizing n rest with
  | zero => simp [ofHex, Nat.mod_one]
  | succ width ih =>
      have digit := CodePoint.isHexDigit_ofDigit n
      have value : (total * 16 ^ width + n / 16 % 16 ^ width) * 16 + n % 16 =
          total * 16 ^ (width + 1) + n % 16 ^ (width + 1) := by
        rw [Nat.pow_succ', Nat.mod_mul, Nat.add_mul, Nat.mul_assoc, Nat.mul_comm (16 ^ width) 16]
        omega
      rw [ofHex, List.append_assoc, ih, List.singleton_append, readGroupedFrom,
        if_neg (digit.ne (by decide)), CodePoint.digitIn?_ofDigit]
      simp only [value]
      simp

section Written

variable (digits : t ⊆ CodePoint.hexDigits)

include digits

/-- The decimal digits among the digits are their own ASCII form, and the others are no decimal digits. -/
theorem asciiDigits_eq_self : asciiDigits t = t := by
  have own : ∀ c ∈ CodePoint.hexDigits, asciiDigits [c] = [c] := by decide
  refine (List.map_congr_left fun c member => ?_).trans t.map_id
  exact List.head_eq_of_cons_eq (own c (digits member))

theorem splitSign_eq_self : splitSign t = (false, t) := by
  cases t with
  | nil => rfl
  | cons c rest =>
      have unsigned : ∀ c ∈ CodePoint.hexDigits, c ≠ '-' ∧ c ≠ '+' := by decide
      obtain ⟨minus, plus⟩ := unsigned c (digits List.mem_cons_self)
      rw [splitSign, if_neg minus, if_neg plus]

theorem dropHexMark_eq_self : dropHexMark t = t := by
  unfold dropHexMark
  split
  · rename_i first second rest
    have unmarked : ∀ c ∈ CodePoint.hexDigits, ¬(c = 'x' ∨ c = 'X') := by decide
    have digit := unmarked second (digits (List.mem_cons_of_mem _ List.mem_cons_self))
    rw [if_neg fun marked => digit marked.2]
  · rfl

/-- The case of a letter makes no difference to the number. -/
theorem readGroupedFrom_lowerAscii (total : Nat) (afterDigit : Bool) :
    readGroupedFrom 16 (digitIn? 16) afterDigit total t.lowerAscii =
      readGroupedFrom 16 (digitIn? 16) afterDigit total t := by
  have same : ∀ c ∈ CodePoint.hexDigits, ∀ d ∈ lowerAscii [c],
      (d = '_' ↔ c = '_') ∧ digitIn? 16 d = digitIn? 16 c := by decide
  induction t generalizing total afterDigit with
  | nil => rfl
  | cons c rest ih =>
      obtain ⟨underscore, value⟩ := same c (digits List.mem_cons_self) _ (List.mem_singleton_self _)
      have later := ih fun d member => digits (List.mem_cons_of_mem c member)
      rw [lowerAscii, List.map_cons, readGroupedFrom, readGroupedFrom]
      simp only [underscore, value]
      rw [← lowerAscii]
      simp only [later]

end Written

/-- A number that was written in digits of either case reads back. -/
theorem readLenient?_of_lowerAscii {width n : Nat} (nonempty : 0 < width) (small : n < 16 ^ width)
    (lower : t.lowerAscii = ofHex width n) : readLenient? 16 t = some ↑n := by
  have digits := subset_hexDigits lower
  have unspaced : ∀ c ∈ CodePoint.hexDigits, isNumeralSpace c = false := by decide
  have bare : t.trimBy isNumeralSpace = t := trimBy_eq_self_of_forall fun c member => unspaced c (digits member)
  have read : readGrouped? 16 (digitIn? 16) t = some n := by
    have whole := readGroupedFrom_ofHex width n 0 false []
    rw [List.append_nil, ← lower, readGroupedFrom_lowerAscii digits] at whole
    rw [readGrouped?, whole, readGroupedFrom]
    simp [nonempty, Nat.mod_eq_of_lt small]
  unfold readLenient?
  rw [bare, asciiDigits_eq_self digits, splitSign_eq_self digits]
  simp only [reduceIte, dropHexMark_eq_self digits, read]
  rfl

end Digits

/-! ### What a lenient numeral can be

Every step of reading drops code points or keeps their number, and a digit of base sixteen is below sixteen. -/

section Bounds

variable {t : Text}

theorem digitIn?_lt {base value : Nat} {c : CodePoint} (digit : digitIn? base c = some value) : value < base := by
  have kept := (Option.filter_eq_some_iff.1 digit).2
  simpa using kept

theorem readGroupedFrom_lt {base total n : Nat} {afterDigit : Bool} (positive : 0 < base)
    (read : readGroupedFrom base (digitIn? base) afterDigit total t = some n) :
    n < (total + 1) * base ^ t.length := by
  induction t generalizing afterDigit total with
  | nil =>
      rw [readGroupedFrom] at read
      split at read
      · cases read
        simp
      · cases read
  | cons c rest ih =>
      rw [readGroupedFrom] at read
      split at read
      · split at read
        · refine (ih read).trans_le (Nat.mul_le_mul_left _ ?_)
          exact Nat.pow_le_pow_right positive (Nat.le_succ _)
        · cases read
      · split at read
        · rename_i value digit
          have below := digitIn?_lt digit
          calc n < (total * base + value + 1) * base ^ rest.length := ih read
            _ ≤ (total * base + base) * base ^ rest.length := Nat.mul_le_mul_right _ (by omega)
            _ = (total + 1) * base ^ (rest.length + 1) := by
              rw [Nat.pow_succ, ← Nat.succ_mul, Nat.mul_assoc, Nat.mul_comm base]
        · cases read

theorem length_splitSign_le (t : Text) : (splitSign t).2.length ≤ t.length := by
  cases t with
  | nil => exact Nat.le_refl _
  | cons c rest =>
      rw [splitSign]
      split
      · exact Nat.le_succ _
      · split
        · exact Nat.le_succ _
        · exact Nat.le_refl _

theorem length_dropHexMark_le (t : Text) : (dropHexMark t).length ≤ t.length := by
  unfold dropHexMark
  split
  · split
    · split
      · split <;> simp only [List.length_cons] <;> omega
      · exact Nat.zero_le _
    · exact Nat.le_refl _
  · exact Nat.le_refl _

theorem mem_of_mem_asciiDigits (member : CodePoint.ofChar '-' ∈ asciiDigits t) : CodePoint.ofChar '-' ∈ t := by
  obtain ⟨c, among, same⟩ := List.mem_map.1 member
  split at same
  · rename_i value _
    have minus : ∀ value < 16, CodePoint.ofDigit value ≠ CodePoint.ofChar '-' := by decide
    exact absurd same ((CodePoint.isHexDigit_ofDigit value).ne minus)
  · rw [← same]
    exact among

theorem splitSign_of_not_mem (absent : CodePoint.ofChar '-' ∉ t) : (splitSign t).1 = false := by
  cases t with
  | nil => rfl
  | cons c rest =>
      have other : c ≠ '-' := fun same => absent (same ▸ List.mem_cons_self)
      rw [splitSign, if_neg other]
      split <;> rfl

/-- A numeral without a minus is not negative, and its digits are at most its code points. -/
theorem readLenient?_bounds {n : Int} (read : readLenient? 16 t = some n) (absent : CodePoint.ofChar '-' ∉ t) :
    0 ≤ n ∧ n < 16 ^ t.length := by
  have trimmed := trimBy_sublist isNumeralSpace t
  unfold readLenient? at read
  generalize hs : asciiDigits (t.trimBy isNumeralSpace) = shown at read
  have unsigned : (splitSign shown).1 = false := by
    refine splitSign_of_not_mem fun member => absent (trimmed.subset (mem_of_mem_asciiDigits ?_))
    rw [hs]
    exact member
  have short : (dropHexMark (splitSign shown).2).length ≤ t.length := by
    have kept : shown.length = (t.trimBy isNumeralSpace).length := by
      rw [← hs]
      exact List.length_map _
    have cut := (length_dropHexMark_le (splitSign shown).2).trans (length_splitSign_le shown)
    exact cut.trans (kept.trans_le trimmed.length_le)
  simp only [reduceIte] at read
  split at read
  · cases read
  · obtain ⟨value, grouped, rfl⟩ := Option.map_eq_some_iff.1 read
    rw [unsigned]
    have bound := readGroupedFrom_lt (by decide : 0 < 16) grouped
    rw [Nat.zero_add, Nat.one_mul] at bound
    have below : value < 16 ^ t.length := bound.trans_le (Nat.pow_le_pow_right (by decide) short)
    refine ⟨Int.natCast_nonneg value, ?_⟩
    show (value : Int) < 16 ^ t.length
    exact_mod_cast below

end Bounds

end Text

namespace EntityId

/-- The marks that may stand in front of the digits. -/
def marks : List Text := ["", "urn:", "uuid:", "urn:uuid:"]

/-- The texts that spell an identifier: its digits in either case with hyphens among them, behind a mark, the digits
or all of it in braces, and blanks around. -/
inductive Spells (id : EntityId) : Text → Prop
  | intro {before outer mark inner body closing after : Text} (blanks : ∀ c ∈ before ++ after, c.isBlank)
    (braces : ∀ c ∈ outer ++ inner ++ closing, c = '\x7b' ∨ c = '\x7d') (marked : mark ∈ marks)
    (digits : Text.lowerAscii (body.filter fun c => c != ('-' : CodePoint)) = Text.ofHex 32 id.value) :
    Spells id (before ++ (outer ++ (mark ++ (inner ++ (body ++ closing))) ++ after))

theorem ofString_hyphen : Text.ofString "-" = [CodePoint.ofChar '-'] := by decide

theorem ofString_urn : Text.ofString "urn:" = CodePoint.ofChar 'u' :: Text.ofString "rn:" := by decide

theorem ofString_uuid : Text.ofString "uuid:" = CodePoint.ofChar 'u' :: Text.ofString "uid:" := by decide

/-- The second mark is not the first one, and no occurrence of the first begins inside it. -/
theorem removeAll_urn_uuid (t : Text) :
    Text.removeAll "urn:" (Text.ofString "uuid:" ++ t) = Text.ofString "uuid:" ++ Text.removeAll "urn:" t := by
  have split : Text.ofString "uuid:" = CodePoint.ofChar 'u' :: CodePoint.ofChar 'u' :: Text.ofString "id:" := by decide
  have rest : CodePoint.ofChar 'u' ∉ Text.ofString "id:" := by decide
  rw [split, List.cons_append, List.cons_append, ofString_urn, Text.removeAll_cons, Text.removeAll_cons,
    Text.removeAll_append rest]
  · rfl
  · rfl
  · rfl

/-- A mark is removed, part by part, and without a `u` there is nothing else to remove. -/
theorem removeAll_mark {mark t : Text} (marked : mark ∈ marks) (absent : CodePoint.ofChar 'u' ∉ t) :
    Text.removeAll "uuid:" (Text.removeAll "urn:" (mark ++ t)) = t := by
  have urn : Text.removeAll "urn:" t = t := by
    rw [ofString_urn]
    exact Text.removeAll_eq_self absent
  have uuid : Text.removeAll "uuid:" t = t := by
    rw [ofString_uuid]
    exact Text.removeAll_eq_self absent
  have urnMark (t : Text) : Text.removeAll "urn:" (Text.ofString "urn:" ++ t) = Text.removeAll "urn:" t := by
    rw [ofString_urn]
    exact Text.removeAll_self_append t
  have uuidMark : Text.removeAll "uuid:" (Text.ofString "uuid:" ++ t) = Text.removeAll "uuid:" t := by
    rw [ofString_uuid]
    exact Text.removeAll_self_append t
  simp only [marks, List.mem_cons, List.not_mem_nil, or_false] at marked
  rcases marked with rfl | rfl | rfl | rfl
  · exact (congrArg _ urn).trans uuid
  · rw [urnMark, urn, uuid]
  · rw [removeAll_urn_uuid, urn, uuidMark, uuid]
  · have both : Text.ofString "urn:uuid:" = Text.ofString "urn:" ++ Text.ofString "uuid:" := by decide
    rw [both, List.append_assoc, urnMark, removeAll_urn_uuid, urn, uuidMark, uuid]

section Spelled

variable {id : EntityId} {before outer mark inner body closing after : Text}

/-- Between the braces there are digits and hyphens only. -/
theorem mem_body (digits : Text.lowerAscii (body.filter fun c => c != ('-' : CodePoint)) = Text.ofHex 32 id.value)
    {c : CodePoint} (member : c ∈ body) : c ∈ CodePoint.ofChar '-' :: CodePoint.hexDigits := by
  by_cases hyphen : c = '-'
  · rw [hyphen]
    exact List.mem_cons_self
  · refine List.mem_cons_of_mem _ (Text.subset_hexDigits digits ?_)
    exact List.mem_filter.2 ⟨member, bne_iff_ne.2 hyphen⟩

/-- What is left of a spelling is its digits. -/
theorem core_of_spelled (blanks : ∀ c ∈ before ++ after, c.isBlank)
    (braces : ∀ c ∈ outer ++ inner ++ closing, c = '\x7b' ∨ c = '\x7d') (marked : mark ∈ marks)
    (digits : Text.lowerAscii (body.filter fun c => c != ('-' : CodePoint)) = Text.ofHex 32 id.value) :
    core (before ++ (outer ++ (mark ++ (inner ++ (body ++ closing))) ++ after)) =
      body.filter fun c => c != ('-' : CodePoint) := by
  have letter : ∀ c ∈ CodePoint.ofChar '-' :: CodePoint.hexDigits, c.isBlank = false ∧ c ≠ 'u' ∧
      (c = ('\x7b' : CodePoint) || c = ('\x7d' : CodePoint)) = false := by decide
  have markLetter : ∀ mark ∈ marks, ∀ c ∈ mark, c.isBlank = false := by decide
  rw [List.forall_mem_append, List.forall_mem_append] at braces
  obtain ⟨⟨outerBraces, innerBraces⟩, closingBraces⟩ := braces
  have brace {c : CodePoint} (either : c = '\x7b' ∨ c = '\x7d') : c.isBlank = false ∧ c ≠ 'u' := by
    rcases either with rfl | rfl <;> decide
  have solid : ∀ c ∈ outer ++ (mark ++ (inner ++ (body ++ closing))), c.isBlank = false := by
    simp only [List.forall_mem_append]
    exact ⟨fun c member => (brace (outerBraces c member)).1, markLetter mark marked,
      fun c member => (brace (innerBraces c member)).1, fun c member => (letter c (mem_body digits member)).1,
      fun c member => (brace (closingBraces c member)).1⟩
  have front : CodePoint.ofChar 'u' ∉ outer := fun member => (brace (outerBraces _ member)).2 rfl
  have rear : CodePoint.ofChar 'u' ∉ inner ++ (body ++ closing) := by
    simp only [List.mem_append, not_or]
    exact ⟨fun member => (brace (innerBraces _ member)).2 rfl,
      fun member => (letter _ (mem_body digits member)).2.1 rfl,
      fun member => (brace (closingBraces _ member)).2 rfl⟩
  have unmarked : Text.removeAll "uuid:" (Text.removeAll "urn:" (outer ++ (mark ++ (inner ++ (body ++ closing))))) =
      outer ++ (inner ++ (body ++ closing)) := by
    have bare := removeAll_mark marked rear
    rw [ofString_urn, ofString_uuid] at bare ⊢
    rw [Text.removeAll_append front, Text.removeAll_append front, bare]
  have bare : (outer ++ (inner ++ (body ++ closing))).trimBy
      (fun c => c = ('\x7b' : CodePoint) || c = ('\x7d' : CodePoint)) = body := by
    rw [← List.append_assoc]
    refine Text.trimBy_append ?_ fun c member => (letter c (mem_body digits member)).2.2
    simp only [List.forall_mem_append, Bool.or_eq_true, decide_eq_true_eq]
    exact ⟨⟨outerBraces, innerBraces⟩, closingBraces⟩
  unfold core
  rw [Text.strip, Text.trimBy_append blanks solid]
  simp only [unmarked, bare]
  rw [ofString_hyphen]
  exact Text.removeAll_singleton _ _

end Spelled

theorem not_mem_core (raw : Text) : CodePoint.ofChar '-' ∉ core raw := by
  unfold core
  rw [ofString_hyphen, Text.removeAll_singleton]
  intro member
  exact bne_iff_ne.1 (List.mem_filter.1 member).2 rfl

variable {id : EntityId} {raw : Text}

/-- What is left of a text that has the length of an identifier is the number of one, if it is a number. -/
theorem parse?_of_read {n : Int} (whole : (core raw).length = 32) (read : Text.readLenient? 16 (core raw) = some n) :
    ∃ id, parse? raw = some id ∧ (id.value : Int) = n := by
  obtain ⟨nonneg, below⟩ := Text.readLenient?_bounds read (not_mem_core raw)
  obtain ⟨value, rfl⟩ := Int.eq_ofNat_of_zero_le nonneg
  rw [whole] at below
  have small : value < Nat.pow 2 128 := by
    have same : (16 : Int) ^ 32 = ((Nat.pow 2 128 : Nat) : Int) := by decide
    rw [same] at below
    exact_mod_cast below
  refine ⟨⟨value, small⟩, ?_, rfl⟩
  unfold parse?
  rw [if_pos whole, read]
  exact dif_pos small

/-- A text reads as an identifier exactly when what is left of it is a numeral of the right length. -/
theorem parse?_eq_some_iff :
    parse? raw = some id ↔ (core raw).length = 32 ∧ Text.readLenient? 16 (core raw) = some ↑id.value := by
  constructor
  · intro read
    unfold parse? at read
    split at read
    · rename_i whole
      split at read
      · rename_i n number
        unfold ofNat? at read
        split at read
        · cases read
          exact ⟨whole, number⟩
        · cases read
      · cases read
    · cases read
  · rintro ⟨whole, read⟩
    obtain ⟨found, parsed, same⟩ := parse?_of_read whole read
    have value : found.value = id.value := Int.ofNat.inj same
    rw [parsed]
    cases found
    cases id
    cases value
    rfl

/-- Every spelling reads as what it spells. -/
theorem Spells.parse? (spells : id.Spells raw) : EntityId.parse? raw = some id := by
  obtain ⟨blanks, braces, marked, digits⟩ := spells
  have left := core_of_spelled blanks braces marked digits
  rw [parse?_eq_some_iff, left]
  refine ⟨?_, Text.readLenient?_of_lowerAscii (by decide) id.isLt digits⟩
  rw [← Text.length_lowerAscii, digits, Text.length_ofHex]

/-- Without its hyphens the canonical spelling is the digits. -/
theorem filter_toText (id : EntityId) :
    (id.toText.filter fun c => c != ('-' : CodePoint)) = Text.ofHex 32 id.value := by
  have kept : (Text.ofHex 32 id.value).filter (fun c => c != ('-' : CodePoint)) = Text.ofHex 32 id.value :=
    List.filter_eq_self.2 fun c member => bne_iff_ne.2 ((Text.mem_ofHex member).ne (by decide))
  have next (start : Nat) (digits : Text) :
      (digits.drop start).take 4 ++ digits.drop (start + 4) = digits.drop start := by
    rw [← List.drop_drop, List.take_append_drop]
  -- The pieces are consecutive, so without the hyphens between them they are the digits again.
  have glued (digits : Text) : (Text.join "-" [digits.take 8, (digits.drop 8).take 4, (digits.drop 12).take 4,
      (digits.drop 16).take 4, digits.drop 20]).filter (fun c => c != ('-' : CodePoint)) =
      digits.filter fun c => c != ('-' : CodePoint) := by
    have hyphen : [CodePoint.ofChar '-'].filter (fun c => c != ('-' : CodePoint)) = [] := by decide
    simp only [Text.join, ofString_hyphen, List.filter_append, hyphen, List.append_nil]
    rw [← List.filter_append, next 16, ← List.filter_append, next 12, ← List.filter_append, next 8,
      ← List.filter_append, List.take_append_drop]
  unfold toText
  exact (glued _).trans kept

/-- The canonical spelling is a spelling, with nothing around it and in lower case. -/
theorem spells_toText (id : EntityId) : id.Spells id.toText := by
  have bare : [] ∈ marks := by decide
  have digits : Text.lowerAscii (id.toText.filter fun c => c != ('-' : CodePoint)) = Text.ofHex 32 id.value := by
    rw [filter_toText, Text.lowerAscii_ofHex]
  have spells := @Spells.intro id [] [] [] [] id.toText [] [] (List.forall_mem_nil _) (List.forall_mem_nil _) bare
    digits
  simpa only [List.nil_append, List.append_nil] using spells

theorem parse?_toText (id : EntityId) : parse? id.toText = some id := (spells_toText id).parse?

end EntityId

end AnchorRegistry
