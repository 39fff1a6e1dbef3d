import AnchorRegistry.Proofs.Interruption
import AnchorRegistry.Proofs.Listing

/-! Anchors under every spelling of their identifier. Of the text that a call is given for an identifier only the
failure of the call may show more than the identifier itself: it repeats the text. So two calls under two spellings
of one identifier do the same, make the same records, leave the same store, and come to the same but for that text.
What such a call returns is about the one anchor that has the identifier. -/

namespace AnchorRegistry

open Http (Circumstances)

variable {α β : Type} {raw other : Text}

/-- Two results that differ at most in the text that a failure repeats. -/
inductive Alike (raw other : Text) : Except Failure α → Except Failure α → Prop
  | same (result : Except Failure α) : Alike raw other result result
  | missing (now : Instant) : Alike raw other (.error (.missing raw now)) (.error (.missing other now))
  | refused (v : Violation) (now : Instant) :
    Alike raw other (.error (.refused v (some raw) now)) (.error (.refused v (some other) now))

namespace Action

/-- From every session the two actions come to results that differ at most in the text that a failure repeats, and
they leave the same session. -/
def Matches (raw other : Text) (act act' : Action α) : Prop :=
  ∀ s, Alike raw other (act s).1 (act' s).1 ∧ (act s).2 = (act' s).2

namespace Matches

theorem refl (act : Action α) : act.Matches raw other act := fun _ => ⟨.same _, rfl⟩

theorem notFound : (Repository.notFound raw : Action α).Matches raw other (Repository.notFound other) :=
  fun s => ⟨.missing s.now, rfl⟩

theorem refuse (violation : Option Violation) :
    (refuse violation (some raw)).Matches raw other (refuse violation (some other)) := by
  intro s
  cases violation with
  | none => exact ⟨.same _, rfl⟩
  | some v => exact ⟨.refused v s.now, rfl⟩

section Rules

variable {act act' : Action α}

theorem bind {next next' : α → Action β} (first : act.Matches raw other act')
    (rest : ∀ a, (next a).Matches raw other (next' a)) : (act >>= next).Matches raw other (act' >>= next') := by
  intro s
  obtain ⟨alike, left⟩ := first s
  rw [bind_apply, bind_apply]
  cases run : act s with
  | mk result t =>
      cases run' : act' s with
      | mk result' t' =>
          rw [run, run'] at alike left
          cases left
          cases alike with
          | same =>
              cases result with
              | ok a => exact rest a t
              | error failure => exact ⟨.same _, rfl⟩
          | missing now => exact ⟨.missing now, rfl⟩
          | refused v now => exact ⟨.refused v now, rfl⟩

theorem map (f : α → β) (same : act.Matches raw other act') : (f <$> act).Matches raw other (f <$> act') := by
  rw [map_eq_pure_bind, map_eq_pure_bind]
  exact same.bind fun a => refl _

/-- Neither scope does anything to a failure that repeats the text. -/
theorem guarded (operation : Text) (same : act.Matches raw other act') :
    (guarded operation act).Matches raw other (guarded operation act') := by
  intro s
  obtain ⟨alike, left⟩ := same s
  unfold Action.guarded
  cases run : act s with
  | mk result t =>
      cases run' : act' s with
      | mk result' t' =>
          rw [run, run'] at alike left
          cases left
          cases alike with
          | same => exact ⟨.same _, rfl⟩
          | missing now => exact ⟨.missing now, rfl⟩
          | refused v now => exact ⟨.refused v now, rfl⟩

theorem onIntegrity (act : Action α) {instead instead' : Action α} (same : instead.Matches raw other instead') :
    (act.onIntegrity instead).Matches raw other (act.onIntegrity instead') := by
  intro s
  unfold Action.onIntegrity
  cases act s with
  | mk result t =>
      rcases result with (error | (_ | _ | _ | _ | _ | _) | reason) | a
      case error.storage.integrity => exact same t
      all_goals exact ⟨.same _, rfl⟩

end Rules

end Matches

end Action

namespace Repository

open AnchorRegistry.Action

section Spelled

variable (same : EntityId.parse? raw = EntityId.parse? other)

include same

theorem getAnchorById_matches : (getAnchorById raw).Matches raw other (getAnchorById other) := by
  unfold getAnchorById
  rw [same]
  cases EntityId.parse? other with
  | none => exact .notFound
  | some id =>
      refine (Matches.refl _).bind fun found => ?_
      cases found with
      | nil => exact .notFound
      | cons anchor rest => exact .refl _

theorem updateAnchorMetrics_matches (p : Payload.MetricsUpdate) :
    (updateAnchorMetrics raw p).Matches raw other (updateAnchorMetrics other p) :=
  (Matches.refuse _).bind fun _ => (getAnchorById_matches same).bind fun _ => .refl _

theorem createAsset_matches (p : Payload.NewAsset) :
    (createAsset raw p).Matches raw other (createAsset other p) := by
  refine (getAnchorById_matches same).bind fun anchor => ?_
  refine (Matches.refl _).bind fun _ => (Matches.refl _).bind fun id => (Matches.refl _).bind fun now => ?_
  -- the commit alone looks at the text again, for an owner that is no longer there
  exact ((Matches.onIntegrity _ .notFound).guarded _).bind fun _ => .refl _

theorem listAssetsForAnchor_matches : (listAssetsForAnchor raw).Matches raw other (listAssetsForAnchor other) :=
  (getAnchorById_matches same).bind fun _ => .refl _

end Spelled

namespace Invocation

/-- A call that takes an identifier, as a function of the text it is given for it, and the rows that it returns when
that text names the anchor and the call succeeds. -/
inductive Serves (store : Store) (c : Circumstances) (anchor : Anchor) : (Text → Invocation) → Rows → Prop
  | getAnchorById : Serves store c anchor getAnchorById (.anchor anchor)
  | updateAnchorMetrics (p : Payload.MetricsUpdate) :
    Serves store c anchor (fun raw => updateAnchorMetrics raw p) (.anchor (updatedRow anchor p c.now))
  | createAsset (p : Payload.NewAsset) :
    Serves store c anchor (fun raw => createAsset raw p) (.asset (assetRow p anchor.id c.freshId c.now))
  | listAssetsForAnchor : Serves store c anchor listAssetsForAnchor (.assets (store.owned anchor.id))

variable {c : Circumstances} {connection : Connection} {anchor : Anchor} {call : Text → Invocation} {rows : Rows}

theorem Serves.matches {store : Store} (serves : Serves store c anchor call rows)
    (same : EntityId.parse? raw = EntityId.parse? other) :
    (call raw).action.Matches raw other (call other).action := by
  cases serves with
  | getAnchorById => exact (getAnchorById_matches same).map _
  | updateAnchorMetrics p => exact (updateAnchorMetrics_matches same p).map _
  | createAsset p => exact (createAsset_matches same p).map _
  | listAssetsForAnchor => exact (listAssetsForAnchor_matches same).map _

/-- Under two spellings of one identifier a call comes to the same, but for the text that a failure repeats. -/
theorem Serves.run_alike {store : Store} (serves : Serves store c anchor call rows)
    (same : EntityId.parse? raw = EntityId.parse? other) :
    Alike raw other ((call raw).run c connection).1 ((call other).run c connection).1 ∧
      ((call raw).run c connection).2 = ((call other).run c connection).2 := by
  obtain ⟨alike, left⟩ := serves.matches same (c.session connection)
  rw [run_eq, run_eq]
  exact ⟨alike, congrArg Session.toConnection left⟩

/-- Identifiers are unique, so a look-up that finds an anchor finds this one. -/
theorem eq_of_found {s : Session} (legal : s.store.Legal) (member : anchor ∈ s.store.anchors)
    (read : EntityId.parse? raw = some anchor.id) {found : Anchor} (old : Found raw s found) : found = anchor := by
  obtain ⟨among, parsed⟩ := old.mem
  rw [read, Option.some.injEq] at parsed
  exact List.inj_on_of_nodup_map legal.anchorIds among member parsed.symm

/-- What a call returns under a text that names an anchor is about this anchor. -/
theorem Serves.eq_of_returned (serves : Serves connection.store c anchor call rows) (legal : connection.store.Legal)
    (member : anchor ∈ connection.store.anchors) (read : EntityId.parse? raw = some anchor.id) {given : Rows}
    (returned : ((call raw).run c connection).1 = .ok given) : given = rows := by
  have returns := returns_of_run returned
  have sole {found : Anchor} (old : Found raw (c.session connection) found) : found = anchor :=
    eq_of_found legal member read old
  generalize ((call raw).run c connection).2.store = after at returns
  cases serves with
  | getAnchorById =>
      cases returns with
      | getAnchorById old => rw [sole old]
  | updateAnchorMetrics p =>
      cases returns with
      | updateAnchorMetrics _ old _ _ =>
          rw [sole old]
          rfl
  | createAsset p =>
      cases returns with
      | createAsset _ old _ =>
          rw [sole old]
          rfl
  | listAssetsForAnchor =>
      cases returns with
      | listAssetsForAnchor old gave =>
          rw [sole old] at gave
          obtain ⟨assets, table, rfl⟩ := Store.selectAssets_eq_ok.1 (Session.eq_ok_of_attempt gave)
          have among : connection.store.assets = assets := Store.assets_of_table table
          rw [Store.owned, Store.assetsOf, among]

/-- Reading an identifier is canonical. Every spelling reads as the identifier that it spells. A text reads as an
identifier exactly when 32 code points are left of it and they are a numeral, whose number is then one of 128 bits
whatever its form; and the canonical spelling is a spelling, which reads back. So in every state a stored anchor is
what every spelling of its identifier addresses: whatever fails, a call does the same under all of them and what it
returns is about this anchor, and without a fault a look-up finds it. -/
theorem run_spelling :
    (∀ (id : EntityId) raw, id.Spells raw → EntityId.parse? raw = some id) ∧
    (∀ raw (id : EntityId), EntityId.parse? raw = some id ↔
      (EntityId.core raw).length = 32 ∧ Text.readLenient? 16 (EntityId.core raw) = some ↑id.value) ∧
    (∀ raw n, (EntityId.core raw).length = 32 → Text.readLenient? 16 (EntityId.core raw) = some n →
      ∃ id, EntityId.parse? raw = some id ∧ (id.value : Int) = n) ∧
    (∀ id : EntityId, id.Spells id.toText ∧ EntityId.parse? id.toText = some id) ∧
    ∀ connection, Reachable connection → ∀ anchor ∈ connection.store.anchors, ∀ raw, anchor.id.Spells raw → ∀ c,
      (∀ call rows, Serves connection.store c anchor call rows →
        (∀ given, ((call raw).run c connection).1 = .ok given → given = rows) ∧
        ∀ other, anchor.id.Spells other →
          Alike raw other ((call raw).run c connection).1 ((call other).run c connection).1 ∧
          ((call raw).run c connection).2 = ((call other).run c connection).2) ∧
      (c.fault = none → ((getAnchorById raw).run c connection).1 = .ok (.anchor anchor)) := by
  refine ⟨fun id raw spells => spells.parse?, fun raw id => EntityId.parse?_eq_some_iff,
    fun raw n whole read => EntityId.parse?_of_read whole read,
    fun id => ⟨id.spells_toText, id.parse?_toText⟩, ?_⟩
  intro connection reachable anchor member raw spells c
  have legal := reachable.legal
  refine ⟨fun call rows serves => ⟨fun given returned => ?_, fun other spells' => ?_⟩, fun unfaulted => ?_⟩
  · exact serves.eq_of_returned legal member spells.parse? returned
  · exact serves.run_alike (spells.parse?.trans spells'.parse?.symm)
  · exact run_getAnchorById unfaulted legal member spells.parse?

end Invocation

end Repository

namespace Sample

/-- The identifier of the sample behind both marks, in upper case and in several braces. -/
def braced : Text := "\t\x7burn:uuid:\x7b\x7dA0-000000-0000-4000-8000-00000000000C\x7d\x7b\x7d "

theorem spells_braced : anchorId.Spells braced :=
  @EntityId.Spells.intro anchorId "\t" "\x7b" "urn:uuid:" "\x7b\x7d" "A0-000000-0000-4000-8000-00000000000C"
    "\x7d\x7b\x7d" " " (by decide) (by decide) (by decide) (by decide +kernel)

end Sample

/-- The anchor is found under a spelling with everything that may be around the digits, and a text that is one digit
short reads as no identifier. -/
theorem Repository.Invocation.run_spelling_braced :
    EntityId.parse? Sample.braced = some Sample.anchorId ∧
      ((getAnchorById Sample.braced).run Sample.circumstances Sample.registered).1 =
        .ok (.anchor (anchorRow Sample.profile Sample.anchorId ⟨5⟩).stored) ∧
      EntityId.parse? "a0000000-0000-4000-8000-00000000000" = none := by
  obtain ⟨spelled, reads, -, -, addressed⟩ := run_spelling
  have member : (anchorRow Sample.profile Sample.anchorId ⟨5⟩).stored ∈ Sample.registered.store.anchors := by
    decide +kernel
  have found := addressed _ Sample.reachable_registered _ member Sample.braced Sample.spells_braced Sample.circumstances
  refine ⟨spelled _ _ Sample.spells_braced, found.2 rfl, ?_⟩
  rw [Option.eq_none_iff_forall_ne_some]
  intro id read
  exact absurd ((reads _ id).1 read).1 (by decide)

end AnchorRegistry
