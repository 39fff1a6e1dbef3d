import AnchorRegistry.Json.Reader
import AnchorRegistry.Json.Writer
import AnchorRegistry.Proofs.Spelling

/-! Written texts read back. Every code point of a text is written as itself or as an escape, and what is written for
it is never a control character. The reader takes an escape for the code point that it was written for and goes on
right behind it, so a written text ends where it was closed, whatever follows. Nothing beyond ASCII is escaped here,
so two surrogates that stand beside each other are never read as one code point. An object of texts is then written
on one line and reads back member by member. -/

namespace AnchorRegistry

theorem CodePoint.hexValue?_ofDigit (n : Nat) : (ofDigit n).hexValue? = some (n % 16) :=
  (Option.filter_eq_some_iff.1 (digitIn?_ofDigit n)).1

/-- Nothing in the text is a control character, so the text stays on its line. -/
def Text.Unbroken (t : Text) : Prop := ∀ c ∈ t, 0x20 ≤ c.value

instance (t : Text) : Decidable t.Unbroken := inferInstanceAs (Decidable (∀ c ∈ t, _))

namespace Text

theorem unbroken_append {s t : Text} : (s ++ t).Unbroken ↔ s.Unbroken ∧ t.Unbroken := List.forall_mem_append

theorem unbroken_cons {c : CodePoint} {t : Text} : Unbroken (c :: t) ↔ 0x20 ≤ c.value ∧ t.Unbroken :=
  List.forall_mem_cons

theorem unbroken_ofHex (width n : Nat) : (ofHex width n).Unbroken := by
  have visible : ∀ value < 16, 0x20 ≤ (CodePoint.ofDigit value).value := by decide
  intro c member
  obtain ⟨value, small, rfl⟩ := mem_ofHex member
  exact visible value small

end Text

namespace Json

/-- A letter that escapes a code point is no control character and stands for it. -/
theorem unescape?_of_shortEscape? {c letter : CodePoint} (short : shortEscape? c = some letter) :
    letter ≠ 'u' ∧ 0x20 ≤ letter.value ∧ unescape? letter = some c := by
  revert short
  fun_cases shortEscape? c
  case case6 same | case7 same =>
    intro short
    cases short
    rw [← CodePoint.ofNat?_value c, same]
    decide
  case case8 => nofun
  all_goals
    intro short
    subst_vars
    cases short
    decide

theorem unit?_ofHex {n : Nat} (small : n < 0x10000) :
    ∃ a b c d, Text.ofHex 4 n = [a, b, c, d] ∧ unit? a b c d = some n := by
  refine ⟨_, _, _, _, rfl, ?_⟩
  simp only [unit?, CodePoint.hexValue?_ofDigit, Text.ofDigits, List.foldl_cons, List.foldl_nil]
  congr 1
  omega

/-- How a code point is written: with a letter, with its number, or as it is. -/
theorem escape_cases (c : CodePoint) :
    (∃ letter, shortEscape? c = some letter ∧ escape false c = [('\\' : CodePoint), letter]) ∨
    (c.value < 0x20 ∧ escape false c = escapeUnit c.value) ∨
    (0x20 ≤ c.value ∧ c ≠ '"' ∧ c ≠ '\\' ∧ escape false c = [c]) := by
  unfold escape
  cases short : shortEscape? c with
  | some letter => exact .inl ⟨letter, rfl, rfl⟩
  | none =>
      refine .inr ?_
      by_cases control : c.value < 0x20
      · exact .inl ⟨control, if_pos control⟩
      · refine .inr ⟨Nat.le_of_not_lt control, ?_, ?_, if_neg control⟩
        · rintro rfl
          cases short
        · rintro rfl
          cases short

theorem unbroken_escape (c : CodePoint) : (escape false c).Unbroken := by
  have backslash : 0x20 ≤ (CodePoint.ofChar '\\').value := by decide
  have opening : Text.Unbroken "\\u" := by decide
  rcases escape_cases c with ⟨letter, short, written⟩ | ⟨control, written⟩ | ⟨visible, -, -, written⟩
  · rw [written, Text.unbroken_cons, Text.unbroken_cons]
    exact ⟨backslash, (unescape?_of_shortEscape? short).2.1, nofun⟩
  · rw [written]
    exact Text.unbroken_append.2 ⟨opening, Text.unbroken_ofHex 4 c.value⟩
  · rw [written, Text.unbroken_cons]
    exact ⟨visible, nofun⟩

/-- The reader takes what is written for a code point for that code point, and goes on behind it. -/
theorem scanString_escape (c : CodePoint) (start : Text) {rest : Text} (more : rest ≠ []) :
    scanString start 0 (escape false c ++ rest) = prepend c (scanString start 0 rest) := by
  have backslash : CodePoint.ofChar '\\' ≠ CodePoint.ofChar '"' := by decide
  rcases escape_cases c with ⟨letter, short, written⟩ | ⟨control, written⟩ | ⟨visible, quote, other, written⟩
  · obtain ⟨single, -, read⟩ := unescape?_of_shortEscape? short
    have decoded (whole : Text) : scanEscape start whole (letter :: rest) = .ok (c, 1) := by
      simp only [scanEscape, if_neg single, read]
    rw [written, List.cons_append, scanString, if_neg backslash, if_pos rfl, List.cons_append, List.nil_append, decoded]
    rfl
  · obtain ⟨p, q, r, s, digits, read⟩ := unit?_ofHex (by omega : c.value < 0x10000)
    obtain ⟨next, tail, rfl⟩ := List.exists_cons_of_ne_nil more
    have single : c.isHighSurrogate = false := by
      simp [CodePoint.isHighSurrogate, CodePoint.within]
      omega
    have decoded (whole : Text) :
        scanEscape start whole (('u' : CodePoint) :: p :: q :: r :: s :: next :: tail) = .ok (c, 5) := by
      simp only [scanEscape, if_true, read, Option.bind_some, CodePoint.ofNat?_value, single]
      rfl
    have spelled : escape false c ++ next :: tail =
        ('\\' : CodePoint) :: ('u' : CodePoint) :: p :: q :: r :: s :: next :: tail := by
      rw [written, escapeUnit, digits]
      rfl
    rw [spelled, scanString, if_neg backslash, if_pos rfl, decoded]
    rfl
  · rw [written, List.cons_append, scanString, if_neg quote, if_neg other, if_neg (Nat.not_lt.2 visible)]
    rfl

/-- A text that was written up to a closing quote reads back, whatever follows. -/
theorem scanString_written (start t rest : Text) :
    scanString start 0 (t.flatMap (escape false) ++ ('"' : CodePoint) :: rest) = .ok (t, rest) := by
  induction t with
  | nil => exact if_pos rfl
  | cons c t ih =>
      rw [List.flatMap_cons, List.append_assoc, scanString_escape c start (by simp), ih]
      rfl

theorem unbroken_writeString (t : Text) : (writeString false t).Unbroken := by
  have quote : 0x20 ≤ (CodePoint.ofChar '"').value := by decide
  unfold writeString
  rw [Text.unbroken_cons, Text.unbroken_append, Text.unbroken_cons]
  refine ⟨quote, fun c member => ?_, quote, nofun⟩
  obtain ⟨d, -, written⟩ := List.mem_flatMap.1 member
  exact unbroken_escape d c written

theorem scanValue_writeString (fuel room : Nat) (t rest : Text) :
    scanValue (fuel + 1) room (writeString false t ++ rest) = .ok (.string t, rest) := by
  have read := scanString_written (writeString false t ++ rest) t rest
  unfold writeString at read ⊢
  rw [List.cons_append, List.append_assoc, List.singleton_append] at read ⊢
  rw [scanValue]
  simp only [if_true, read]

section Member

variable (fuel room : Nat) (key t rest : Text)

theorem writeString_append (u : Text) : writeString false key ++ u =
    ('"' : CodePoint) :: (key.flatMap (escape false) ++ ('"' : CodePoint) :: u) := by
  rw [writeString, List.cons_append, List.append_assoc, List.singleton_append]

theorem skipSpace_keySeparator (u : Text) :
    skipSpace (Layout.line.keySeparator ++ u) = (':' : CodePoint) :: (' ' : CodePoint) :: u := rfl

theorem scanValue_spaced : scanValue (fuel + 1) room (skipSpace ((' ' : CodePoint) :: (writeString false t ++ rest))) =
    .ok (.string t, rest) := scanValue_writeString fuel room t rest

/-- The last member with a text reads back up to the closing brace. -/
theorem scanMembers_last : scanMembers (fuel + 2) room (writeString false key ++
    (Layout.line.keySeparator ++ (writeString false t ++ ('}' : CodePoint) :: rest))) =
      .ok ([(key, .string t)], rest) := by
  have colon := skipSpace_keySeparator (writeString false t ++ ('}' : CodePoint) :: rest)
  have closed : skipSpace (('}' : CodePoint) :: rest) = ('}' : CodePoint) :: rest := rfl
  rw [writeString_append, scanMembers]
  simp only [if_true, scanString_written, colon, scanValue_spaced, closed]

/-- A member with a text reads back in front of others that do. -/
theorem scanMembers_next {members : List (Text × Json)} {after : Text}
    (later : scanMembers (fuel + 1) room (skipSpace rest) = .ok (members, after)) :
    scanMembers (fuel + 2) room (writeString false key ++
      (Layout.line.keySeparator ++ (writeString false t ++ (',' : CodePoint) :: rest))) =
        .ok ((key, .string t) :: members, after) := by
  have colon := skipSpace_keySeparator (writeString false t ++ (',' : CodePoint) :: rest)
  have comma : skipSpace ((',' : CodePoint) :: rest) = (',' : CodePoint) :: rest := rfl
  have other : CodePoint.ofChar ',' ≠ CodePoint.ofChar '}' := by decide
  rw [writeString_append, scanMembers]
  simp only [if_true, scanString_written, colon, scanValue_spaced, comma, other, if_false, later]

end Member

/-- Whether every value of the members is a text. -/
def Textual (members : List (Text × Json)) : Prop := ∀ member ∈ members, ∃ t, member.2 = .string t

section Members

variable {members : List (Text × Json)}

theorem writeMembers_cons_cons (layout : Layout) (key : Text) (value : Json) (next : Text × Json)
    (others : List (Text × Json)) : writeMembers layout ((key, value) :: next :: others) =
      writeString layout.asciiOnly key ++ layout.keySeparator ++ value.write layout ++ layout.itemSeparator ++
        writeMembers layout (next :: others) := by
  rw [writeMembers]
  exact List.cons_ne_nil next others

/-- Members begin with the quote of the first key. -/
theorem exists_writeMembers (layout : Layout) (nonempty : members ≠ []) :
    ∃ rest, writeMembers layout members = ('"' : CodePoint) :: rest := by
  match members with
  | [] => exact absurd rfl nonempty
  | [(key, value)] => exact ⟨_, rfl⟩
  | (key, value) :: next :: others => exact ⟨_, rfl⟩

theorem scanMembers_writeMembers (texts : Textual members) (nonempty : members ≠ []) {fuel : Nat}
    (enough : members.length < fuel) (room : Nat) (rest : Text) :
    scanMembers fuel room (writeMembers .line members ++ ('}' : CodePoint) :: rest) = .ok (members, rest) := by
  induction members generalizing fuel with
  | nil => exact absurd rfl nonempty
  | cons member others ih =>
      obtain ⟨key, value⟩ := member
      obtain ⟨t, same⟩ := texts _ List.mem_cons_self
      cases same
      rw [List.length_cons] at enough
      obtain ⟨fuel, rfl⟩ : ∃ spare, fuel = spare + 2 := ⟨fuel - 2, by omega⟩
      cases others with
      | nil =>
          rw [writeMembers, write, List.append_assoc, List.append_assoc]
          exact scanMembers_last fuel room key t rest
      | cons next others =>
          have later : scanMembers (fuel + 1) room (writeMembers .line (next :: others) ++ ('}' : CodePoint) :: rest) =
              .ok (next :: others, rest) :=
            ih (fun member among => texts member (List.mem_cons_of_mem _ among)) (List.cons_ne_nil next others)
              (by omega)
          obtain ⟨u, begins⟩ := exists_writeMembers .line (List.cons_ne_nil next others)
          rw [begins, List.cons_append] at later
          rw [writeMembers_cons_cons, write, begins]
          simp only [List.append_assoc, List.cons_append]
          -- the separator is a comma and a space, and the members behind them begin with a quote
          exact scanMembers_next fuel room key t (' ' :: '"' :: (u ++ ('}' : CodePoint) :: rest)) later

theorem length_le_writeMembers (layout : Layout) (members : List (Text × Json)) :
    members.length ≤ (writeMembers layout members).length := by
  induction members with
  | nil => exact Nat.le_refl 0
  | cons member others ih =>
      cases others with
      | nil =>
          obtain ⟨rest, begins⟩ := exists_writeMembers layout (List.cons_ne_nil member [])
          rw [begins]
          exact Nat.succ_le_succ (Nat.zero_le _)
      | cons next others =>
          obtain ⟨key, value⟩ := member
          rw [writeMembers_cons_cons, List.length_append, List.length_cons]
          have opened : 0 < (writeString layout.asciiOnly key).length := Nat.succ_pos _
          simp only [List.length_append]
          omega

theorem scanValue_object {fuel room : Nat} {t rest : Text}
    (read : scanMembers fuel room (('"' : CodePoint) :: t) = .ok (members, rest)) :
    scanValue (fuel + 1) (room + 1) (('{' : CodePoint) :: ('"' : CodePoint) :: t) = .ok (.object members, rest) := by
  have brace : CodePoint.ofChar '{' ≠ CodePoint.ofChar '"' ∧ CodePoint.ofChar '{' ≠ CodePoint.ofChar '[' := by decide
  have spaced : skipSpace (('"' : CodePoint) :: t) = ('"' : CodePoint) :: t := rfl
  have closed : CodePoint.ofChar '"' ≠ CodePoint.ofChar '}' := by decide
  rw [scanValue]
  simp only [brace.1, brace.2, if_false, and_false, Nat.succ_ne_zero, false_and, if_true, spaced, closed,
    Nat.add_sub_cancel, read]

/-- An object of texts reads back member by member. -/
theorem parse_write_object (texts : Textual members) (nonempty : members ≠ []) (room : Nat) :
    parse ((object members).write .line) (room + 1) = .ok (object members) := by
  obtain ⟨t, begins⟩ := exists_writeMembers .line nonempty
  have written : (object members).write .line =
      ('{' : CodePoint) :: (writeMembers .line members ++ [('}' : CodePoint)]) := rfl
  have enough : members.length < 2 * ((object members).write .line).length + 1 := by
    have bound := length_le_writeMembers .line members
    rw [written, List.length_cons, List.length_append]
    omega
  have read := scanMembers_writeMembers texts nonempty enough room []
  rw [begins, List.cons_append] at read
  have spaced : skipSpace ((object members).write .line) =
      ('{' : CodePoint) :: ('"' : CodePoint) :: (t ++ [('}' : CodePoint)]) := by
    rw [written, begins]
    rfl
  unfold parse
  simp only [spaced, scanValue_object read]
  rfl

theorem read_write_object (texts : Textual members) (nonempty : members ≠ []) :
    read ((object members).write .line) = .ok (object members) := by
  obtain ⟨room, deep⟩ : ∃ room, maxDepth = room + 1 := ⟨_, rfl⟩
  have opened : ((object members).write .line).head? = some ('{' : CodePoint) := rfl
  have brace : (CodePoint.ofChar '{').value ≠ 0xFEFF := by decide
  unfold read
  rw [opened, Option.any_some, decide_eq_false brace, if_neg Bool.false_ne_true, deep]
  exact parse_write_object texts nonempty room

theorem unbroken_writeMembers (texts : Textual members) : (writeMembers .line members).Unbroken := by
  have marks : Layout.line.keySeparator.Unbroken ∧ Layout.line.itemSeparator.Unbroken := by decide
  induction members with
  | nil => exact nofun
  | cons member others ih =>
      obtain ⟨key, value⟩ := member
      obtain ⟨t, same⟩ := texts _ List.mem_cons_self
      cases same
      have first : (writeString false key ++ Layout.line.keySeparator ++ writeString false t).Unbroken :=
        Text.unbroken_append.2 ⟨Text.unbroken_append.2 ⟨unbroken_writeString key, marks.1⟩, unbroken_writeString t⟩
      cases others with
      | nil => exact first
      | cons next others =>
          have later := ih fun member among => texts member (List.mem_cons_of_mem _ among)
          rw [writeMembers_cons_cons, write]
          exact Text.unbroken_append.2 ⟨Text.unbroken_append.2 ⟨first, marks.2⟩, later⟩

/-- An object of texts is written on one line. -/
theorem unbroken_write_object (texts : Textual members) : ((object members).write .line).Unbroken := by
  have braces : Text.Unbroken "\x7b" ∧ Text.Unbroken "\x7d" := by decide
  rw [write]
  exact Text.unbroken_append.2 ⟨Text.unbroken_append.2 ⟨braces.1, unbroken_writeMembers texts⟩, braces.2⟩

end Members

end Json

end AnchorRegistry
