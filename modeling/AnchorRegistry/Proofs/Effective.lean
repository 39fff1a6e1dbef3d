import AnchorRegistry.Payload.Request
import Mathlib.Data.List.Nodup
import Mathlib.Data.List.Pairwise
import Mathlib.Logic.Relation

/-! Effective values. A payload reads an object field by field, and of a field it sees the value under its wire
name or else the value under its name. So two objects with the same effective values are read alike: `Agree` says
of two results that they are the same payload or the same faults, where each fault is told at the key that its
object uses. There is one rule for each way of reading a field and one for putting fields together. `Respelled`
lists what may be done to an object without a change of any effective value. -/

namespace AnchorRegistry

section LastValue

variable {α : Type} {key name : Text} {value : α} {before after members left right : List (Text × α)}

theorem lastValue?_cons (key name : Text) (value : α) (rest : List (Text × α)) :
    lastValue? key ((name, value) :: rest) =
      (lastValue? key rest <|> if name = key then some value else none) := by
  rw [lastValue?]
  cases lastValue? key rest <;> rfl

theorem lastValue?_append (key : Text) (before after : List (Text × α)) :
    lastValue? key (before ++ after) = (lastValue? key after <|> lastValue? key before) := by
  induction before with
  | nil =>
      rw [List.nil_append, lastValue?]
      cases lastValue? key after <;> rfl
  | cons member rest ih =>
      rw [List.cons_append, lastValue?_cons, lastValue?_cons, ih]
      cases lastValue? key after <;> rfl

/-- A member under another key is not seen. -/
theorem lastValue?_insert (other : name ≠ key) :
    lastValue? key (before ++ (name, value) :: after) = lastValue? key (before ++ after) := by
  rw [lastValue?_append, lastValue?_append, lastValue?_cons, if_neg other]
  cases lastValue? key after <;> rfl

theorem lastValue?_eq_none_iff : lastValue? key members = none ↔ ∀ member ∈ members, member.1 ≠ key := by
  induction members with
  | nil => simp [lastValue?]
  | cons member rest ih =>
      rw [lastValue?_cons, List.forall_mem_cons, ← ih]
      cases lastValue? key rest <;> simp

theorem mem_of_lastValue? (found : lastValue? key members = some value) : (key, value) ∈ members := by
  induction members with
  | nil => cases found
  | cons member rest ih =>
      rw [lastValue?_cons] at found
      cases later : lastValue? key rest with
      | some last =>
          rw [later] at found ih
          exact List.mem_cons_of_mem member (ih found)
      | none =>
          rw [later] at found
          obtain ⟨same, rfl⟩ : member.1 = key ∧ member.2 = value := by simpa using found
          rw [← same]
          exact List.mem_cons_self

/-- Where no key occurs twice, a look-up finds what is there. -/
theorem lastValue?_eq_some_iff (distinct : (members.map Prod.fst).Nodup) :
    lastValue? key members = some value ↔ (key, value) ∈ members := by
  refine ⟨mem_of_lastValue?, fun member => ?_⟩
  cases found : lastValue? key members with
  | none => exact absurd rfl (lastValue?_eq_none_iff.1 found _ member)
  | some other =>
      have same := List.inj_on_of_nodup_map distinct (mem_of_lastValue? found) member rfl
      cases same
      rfl

theorem lastValue?_of_perm (distinct : (left.map Prod.fst).Nodup) (same : left.Perm right) :
    lastValue? key left = lastValue? key right := by
  have distinct' : (right.map Prod.fst).Nodup := (same.map Prod.fst).nodup_iff.1 distinct
  ext value
  rw [lastValue?_eq_some_iff distinct, lastValue?_eq_some_iff distinct', same.mem_iff]

end LastValue

namespace Payload

variable {members left right : List (Text × Json)} {keys : List Key} {key : Key}

namespace Key

/-- The effective value of a field: the one under its wire name, or else the one under its name. -/
def value? (key : Key) (members : List (Text × Json)) : Option Json :=
  lastValue? key.wireName members <|> lastValue? key.name members

/-- The key that an object uses for a field; it is the wire name where it uses none. -/
def used (key : Key) (members : List (Text × Json)) : Text :=
  if lastValue? key.wireName members = none ∧ lastValue? key.name members ≠ none then key.name else key.wireName

end Key

theorem effective?_eq (key : Key) (members : List (Text × Json)) :
    effective? key members = (key.value? members).map fun value => (key.used members, value) := by
  unfold effective? Key.value? Key.used
  cases lastValue? key.wireName members with
  | some value => simp
  | none => cases lastValue? key.name members <;> simp

theorem used_of_value?_eq_none (absent : key.value? members = none) : key.used members = key.wireName := by
  unfold Key.value? at absent
  unfold Key.used
  cases wire : lastValue? key.wireName members <;> cases name : lastValue? key.name members <;>
    simp [wire, name] at absent ⊢

section Reading

variable {α : Type} {coerce : Coercion α}

/-- A required field is read from an effective value that its coercion takes. -/
theorem required_eq_accepted_iff {a : α} :
    required coerce key members = .accepted a ↔ ∃ value, key.value? members = some value ∧ coerce value = .ok a := by
  rw [required, effective?_eq]
  cases key.value? members with
  | none => simp
  | some value =>
      simp only [Option.map_some, Checked.ofCoercion, Option.some.injEq, exists_eq_left']
      cases coerce value <;> simp

/-- A field that may be absent tells apart no effective value, null, and one that its coercion takes. -/
theorem optional_eq_accepted_iff {entry : Entry α} :
    optional coerce key members = .accepted entry ↔
      (key.value? members = none ∧ entry = .absent) ∨ (key.value? members = some .null ∧ entry = .null) ∨
        ∃ value a, value ≠ .null ∧ key.value? members = some value ∧ coerce value = .ok a ∧ entry = .given a := by
  rw [optional, effective?_eq]
  cases key.value? members with
  | none => simp [eq_comm]
  | some value =>
      by_cases null : value = .null
      · rw [null]
        simp [eq_comm]
      · simp only [Option.map_some, Checked.ofCoercion, Option.some.injEq, reduceCtorEq, null, false_and, false_or]
        cases taken : coerce value with
        | ok a => simp [null, taken, Checked.map, eq_comm]
        | error issue => simp [taken, Checked.map]

/-- A field may be read as something made of what is there. -/
theorem optional_map {β : Type} {entry : Entry α} (read : optional coerce key members = .accepted entry) (f : α → β) :
    optional (fun value => (coerce value).map f) key members = .accepted (entry.map f) := by
  rw [optional_eq_accepted_iff]
  obtain ⟨found, rfl⟩ | ⟨found, rfl⟩ | ⟨effective, a, notNull, found, taken, rfl⟩ := optional_eq_accepted_iff.1 read
  · exact .inl ⟨found, rfl⟩
  · exact .inr (.inl ⟨found, rfl⟩)
  · refine .inr (.inr ⟨effective, f a, notNull, found, ?_, rfl⟩)
    rw [taken]
    rfl

end Reading

/-- What is wrong with some fields, told at the keys that an object uses for them. -/
def told (members : List (Text × Json)) (faults : List (Key × Issue)) : List Detail :=
  faults.map fun (key, issue) => ⟨[key.used members], issue⟩

/-- The same payload, or the same faults of the same fields, each told where its object has the field. -/
inductive Agree {α : Type} (keys : List Key) (left right : List (Text × Json)) : Checked α → Checked α → Prop
  | accepted (a : α) : Agree keys left right (.accepted a) (.accepted a)
  | rejected (faults : List (Key × Issue)) (known : ∀ fault ∈ faults, fault.1 ∈ keys) :
    Agree keys left right (.rejected (told left faults)) (.rejected (told right faults))

namespace Agree

variable {α β : Type}

theorem single (member : key ∈ keys) (issue : Issue) :
    Agree keys left right (.rejected [⟨[key.used left], issue⟩] : Checked α)
      (.rejected [⟨[key.used right], issue⟩]) :=
  .rejected [(key, issue)] (List.forall_mem_singleton.2 member)

theorem map {x y : Checked α} (agree : Agree keys left right x y) (f : α → β) :
    Agree keys left right (x.map f) (y.map f) := by
  cases agree with
  | accepted a => exact .accepted (f a)
  | rejected faults known => exact .rejected faults known

theorem seq {f g : Checked (α → β)} {x y : Checked α} (first : Agree keys left right f g)
    (second : Agree keys left right x y) : Agree keys left right (f.seq x) (g.seq y) := by
  cases first with
  | accepted h =>
      cases second with
      | accepted a => exact .accepted (h a)
      | rejected faults known => exact .rejected faults known
  | rejected before knownBefore =>
      cases second with
      | accepted a => exact .rejected before knownBefore
      | rejected faults known =>
          rw [Checked.seq, Checked.seq, told, told, told, told, ← List.map_append, ← List.map_append]
          exact .rejected (before ++ faults) (List.forall_mem_append.2 ⟨knownBefore, known⟩)

variable (coerce : Coercion α) (member : key ∈ keys)

include member

theorem ofCoercion (value : Json) :
    Agree keys left right (.ofCoercion [key.used left] coerce value) (.ofCoercion [key.used right] coerce value) := by
  unfold Checked.ofCoercion
  cases coerce value with
  | ok a => exact .accepted a
  | error issue => exact .single member issue

variable (same : ∀ key ∈ keys, key.value? left = key.value? right)

include same

theorem required : Agree keys left right (required coerce key left) (required coerce key right) := by
  have here := same key member
  unfold Payload.required
  rw [effective?_eq, effective?_eq, ← here]
  cases effective : key.value? left with
  | none =>
      have missing : Agree keys left right (.rejected [⟨[key.used left], .missing⟩] : Checked α)
        (.rejected [⟨[key.used right], .missing⟩]) := single member .missing
      rw [used_of_value?_eq_none effective, used_of_value?_eq_none (here ▸ effective)] at missing
      exact missing
  | some value => exact ofCoercion coerce member value

theorem optional : Agree keys left right (optional coerce key left) (optional coerce key right) := by
  unfold Payload.optional
  rw [effective?_eq, effective?_eq, ← same key member]
  cases key.value? left with
  | none => exact .accepted Entry.absent
  | some value =>
      cases value with
      | null => exact .accepted Entry.null
      | _ => exact (ofCoercion coerce member _).map Entry.given

end Agree

section Respelling

/-- No spelling of one field is a spelling of another. -/
def Key.Separate (key other : Key) : Prop :=
  key.name ≠ other.name ∧ key.name ≠ other.wireName ∧ key.wireName ≠ other.name ∧ key.wireName ≠ other.wireName

instance (key other : Key) : Decidable (key.Separate other) := inferInstanceAs (Decidable (_ ∧ _))

theorem Key.Separate.symm {key other : Key} (separate : key.Separate other) : other.Separate key :=
  ⟨separate.1.symm, separate.2.2.1.symm, separate.2.1.symm, separate.2.2.2.symm⟩

instance : Std.Symm Key.Separate := ⟨fun _ _ => Key.Separate.symm⟩

/-- The member under another key, if it is under this one. -/
def renamed (old new : Text) (member : Text × Json) : Text × Json :=
  if member.1 = old then (new, member.2) else member

theorem lastValue?_renamed {old new name : Text} (notOld : name ≠ old) (notNew : name ≠ new) :
    lastValue? name (members.map (renamed old new)) = lastValue? name members := by
  induction members with
  | nil => rfl
  | cons member rest ih =>
      rw [List.map_cons, lastValue?_cons, lastValue?_cons, ih, renamed]
      by_cases at_old : member.1 = old
      · simp [at_old, notOld.symm, notNew.symm]
      · simp [at_old]

theorem map_renamed_self (name : Text) (members : List (Text × Json)) : members.map (renamed name name) = members := by
  have stays (member : Text × Json) : renamed name name member = member := by
    unfold renamed
    split
    · rename_i same
      rw [← same]
    · rfl
  rw [funext stays, List.map_id']

theorem lastValue?_renamed_old {old new : Text} (distinct : new ≠ old) :
    lastValue? old (members.map (renamed old new)) = none := by
  rw [lastValue?_eq_none_iff]
  intro member among same
  obtain ⟨original, -, rfl⟩ := List.mem_map.1 among
  unfold renamed at same
  split at same
  · exact distinct same
  · contradiction

theorem lastValue?_renamed_new {old new : Text} (absent : lastValue? new members = none) :
    lastValue? new (members.map (renamed old new)) = lastValue? old members := by
  induction members with
  | nil => rfl
  | cons member rest ih =>
      rw [lastValue?_eq_none_iff, List.forall_mem_cons, ← lastValue?_eq_none_iff] at absent
      rw [List.map_cons, lastValue?_cons, lastValue?_cons, ih absent.2, renamed]
      by_cases at_old : member.1 = old
      · simp [at_old]
      · simp [at_old, absent.1]

/-- What is done to an object without a change of any effective value: its members in another order, a wire name
replaced by the name that it does not have yet, a member under a key of no field, and one under the name of a field
that its wire name already gives. -/
inductive Respelled (keys : List Key) : List (Text × Json) → List (Text × Json) → Prop
  | reordered {left right : List (Text × Json)} (distinct : (left.map Prod.fst).Nodup) (same : left.Perm right) :
    Respelled keys left right
  | rekeyed {members : List (Text × Json)} {key : Key} (member : key ∈ keys)
    (absent : lastValue? key.name members = none) :
    Respelled keys members (members.map (renamed key.wireName key.name))
  | unknown {before after : List (Text × Json)} {name : Text} (value : Json)
    (foreign : ∀ key ∈ keys, name ≠ key.name ∧ name ≠ key.wireName) :
    Respelled keys (before ++ after) (before ++ (name, value) :: after)
  | shadowed {before after : List (Text × Json)} {key : Key} (value : Json) (member : key ∈ keys)
    (distinct : key.name ≠ key.wireName) (present : lastValue? key.wireName (before ++ after) ≠ none) :
    Respelled keys (before ++ after) (before ++ (key.name, value) :: after)

variable (separate : keys.Pairwise Key.Separate)

include separate

/-- No respelling changes an effective value, of whatever field of the schema. -/
theorem Respelled.value?_eq (respelled : Respelled keys left right) :
    ∀ key ∈ keys, key.value? left = key.value? right := by
  intro key among
  unfold Key.value?
  cases respelled with
  | reordered distinct same => rw [lastValue?_of_perm distinct same, lastValue?_of_perm distinct same]
  | unknown value foreign =>
      obtain ⟨notName, notWire⟩ := foreign key among
      rw [lastValue?_insert notWire, lastValue?_insert notName]
  | @rekeyed _ other member absent =>
      by_cases here : key = other
      · subst here
        -- A field with one spelling keeps it; any other loses its wire name, and its name takes over the value.
        by_cases distinct : key.name = key.wireName
        · have unchanged : left.map (renamed key.wireName key.name) = left := by
            rw [distinct]
            exact map_renamed_self key.wireName left
          rw [unchanged]
        · rw [lastValue?_renamed_old distinct, lastValue?_renamed_new absent, absent]
          cases lastValue? key.wireName left <;> rfl
      · obtain ⟨names, nameWire, wireName, wires⟩ := separate.forall among member here
        rw [lastValue?_renamed wires wireName, lastValue?_renamed nameWire names]
  | @shadowed before after other value member distinct present =>
      by_cases here : key = other
      · subst here
        rw [lastValue?_insert distinct]
        cases wire : lastValue? key.wireName (before ++ after) with
        | none => exact absurd wire present
        | some effective => rfl
      · obtain ⟨names, _, wireName, _⟩ := separate.forall among member here
        rw [lastValue?_insert wireName.symm, lastValue?_insert names.symm]

/-- Nor does any number of respellings, one after the other. -/
theorem value?_eq_of_respelled (respelled : Relation.ReflTransGen (Respelled keys) left right) :
    ∀ key ∈ keys, key.value? left = key.value? right := by
  intro key among
  induction respelled with
  | refl => rfl
  | tail _ step ih => exact ih.trans (step.value?_eq separate key among)

end Respelling

end Payload

end AnchorRegistry
