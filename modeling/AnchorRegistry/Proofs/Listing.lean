import AnchorRegistry.Proofs.Events

/-! Lists. A list is a table, or the part of it that one anchor owns, in the order of creation times and, among equal
times, of identifiers. Nothing is lost or repeated: the list of anchors is all that are stored, and the lists of their
assets share out all assets. The rows themselves are told by the history: every effect leaves the anchors there are in
their places, remeasured at most, and appends what a successful registration returned; and the assets of an anchor are
appended to by the calls that named it. Where steps come in the order of times and identifiers, the order of lists is
therefore the order of the history. -/

namespace AnchorRegistry

open Repository (Invocation Rows anchorRow assetRow)
open Http (Circumstances)

section Order

variable {t t' t'' : Timestamp} {i i' i'' : EntityId}

theorem comesBefore_iff : comesBefore t i t' i' ↔ t.instant.micros < t'.instant.micros ∨
    t.instant.micros = t'.instant.micros ∧ i.value ≤ i'.value := by
  simp [comesBefore]

theorem comesBefore_trans (first : comesBefore t i t' i') (second : comesBefore t' i' t'' i'') :
    comesBefore t i t'' i'' := by
  rw [comesBefore_iff] at first second ⊢
  omega

theorem comesBefore_total : comesBefore t i t' i' ∨ comesBefore t' i' t i := by
  rw [comesBefore_iff, comesBefore_iff]
  omega

end Order

section Zip

variable {α β : Type} {R : α → β → Prop} {xs : List α} {ys : List β}

/-- Two lists that are related item by item are the two sides of one list of related pairs. -/
theorem exists_pairs_of_forall₂ (related : List.Forall₂ R xs ys) :
    ∃ pairs : List (α × β), pairs.map Prod.fst = xs ∧ pairs.map Prod.snd = ys ∧ ∀ pair ∈ pairs, R pair.1 pair.2 := by
  obtain ⟨lengths, each⟩ := List.forall₂_iff_zip.1 related
  exact ⟨xs.zip ys, List.map_fst_zip (le_of_eq lengths), List.map_snd_zip (ge_of_eq lengths),
    fun _ member => each member⟩

/-- Sorting keeps items together that are alike in the order. -/
theorem forall₂_mergeSort {le : α → α → Bool} {le' : β → β → Bool}
    (alike : ∀ {a a' b b'}, R a b → R a' b' → le a a' = le' b b') (related : List.Forall₂ R xs ys) :
    List.Forall₂ R (xs.mergeSort le) (ys.mergeSort le') := by
  obtain ⟨pairs, rfl, rfl, each⟩ := exists_pairs_of_forall₂ related
  rw [← List.map_mergeSort (r := fun pair other => le pair.1 other.1) fun _ _ _ _ => rfl,
    ← List.map_mergeSort (r := fun pair other => le pair.1 other.1)
      fun pair member other member' => alike (each pair member) (each other member'),
    List.forall₂_map_left_iff, List.forall₂_map_right_iff, List.forall₂_same]
  intro pair member
  exact each pair (List.mem_mergeSort.1 member)

theorem pairwise_of_forall₂ {P : α → α → Prop} {Q : β → β → Prop}
    (alike : ∀ {a a' b b'}, R a b → R a' b' → P a a' → Q b b') (related : List.Forall₂ R xs ys)
    (sorted : xs.Pairwise P) : ys.Pairwise Q := by
  obtain ⟨pairs, rfl, rfl, each⟩ := exists_pairs_of_forall₂ related
  rw [List.pairwise_map] at sorted ⊢
  exact sorted.imp_of_mem fun member member' => alike (each _ member) (each _ member')

end Zip

theorem Anchor.pairwise_mergeSort (rows : List Anchor) :
    (rows.mergeSort Anchor.before).Pairwise fun a b => a.before b := by
  apply List.pairwise_mergeSort
  · intro a b c
    exact comesBefore_trans
  · intro a b
    rw [Bool.or_eq_true]
    exact comesBefore_total

theorem Asset.pairwise_mergeSort (rows : List Asset) :
    (rows.mergeSort Asset.before).Pairwise fun a b => a.before b := by
  apply List.pairwise_mergeSort
  · intro a b c
    exact comesBefore_trans
  · intro a b
    rw [Bool.or_eq_true]
    exact comesBefore_total

namespace Anchor.Remeasured

variable {a b c d : Anchor}

theorem trans (first : a.Remeasured b) (second : b.Remeasured c) : a.Remeasured c := by
  obtain ⟨metrics, updatedAt, rfl⟩ := first
  obtain ⟨metrics', updatedAt', rfl⟩ := second
  exact ⟨metrics', updatedAt', rfl⟩

/-- Metrics and the time of the last write have no part in the order of lists. -/
theorem before_eq (first : a.Remeasured b) (second : c.Remeasured d) : a.before c = b.before d := by
  obtain ⟨metrics, updatedAt, rfl⟩ := first
  obtain ⟨metrics', updatedAt', rfl⟩ := second
  rfl

end Anchor.Remeasured

namespace Store

/-- The anchors in the order of lists. -/
def listed (store : Store) : List Anchor := store.anchors.mergeSort Anchor.before

/-- The assets of an anchor as they were stored. -/
def assetsOf (store : Store) (owner : EntityId) : List Asset := store.assets.filter fun a => a.anchorId = owner

/-- The assets of an anchor in the order of lists. -/
def owned (store : Store) (owner : EntityId) : List Asset := (store.assetsOf owner).mergeSort Asset.before

theorem mem_owned {store : Store} {owner : EntityId} {a : Asset} :
    a ∈ store.owned owner ↔ a ∈ store.assets ∧ a.anchorId = owner := by
  rw [owned, List.mem_mergeSort, assetsOf, List.mem_filter, decide_eq_true_eq]

theorem nodup_owned {store : Store} (legal : store.Legal) (owner : EntityId) :
    ((store.owned owner).map Asset.id).Nodup := by
  have sorted := (List.mergeSort_perm (store.assetsOf owner) Asset.before).map Asset.id
  exact sorted.nodup_iff.2 (legal.assetIds.sublist (List.filter_sublist.map Asset.id))

/-- Every asset has one owner, so the lists of all anchors share out all assets. -/
theorem flatMap_owned_perm {store : Store} (legal : store.Legal) :
    (store.listed.flatMap fun anchor => store.owned anchor.id).Perm store.assets := by
  have listed : store.listed.Perm store.anchors := List.mergeSort_perm _ _
  have assets : store.assets.Nodup := .of_map Asset.id legal.assetIds
  refine (List.perm_ext_iff_of_nodup ?_ assets).2 fun a => ?_
  · rw [List.nodup_flatMap]
    refine ⟨fun anchor _ => .of_map Asset.id (nodup_owned legal anchor.id), ?_⟩
    have ids : store.listed.Pairwise fun anchor other => anchor.id ≠ other.id :=
      List.pairwise_map.1 ((listed.map Anchor.id).nodup_iff.2 legal.anchorIds)
    refine ids.imp fun different => ?_
    intro a among
    rw [mem_owned] at among ⊢
    exact fun again => different (among.2.symm.trans again.2)
  · simp only [List.mem_flatMap, mem_owned, listed.mem_iff]
    constructor
    · rintro ⟨anchor, -, member, -⟩
      exact member
    · intro member
      obtain ⟨owner, stored, same⟩ := legal.owned a member
      exact ⟨owner, stored, member, same.symm⟩

end Store

namespace Repository.Invocation

variable {c : Circumstances} {connection : Connection}

theorem run_listAnchors (unfaulted : c.fault = none)
    (table : connection.store.anchorTable = some connection.store.anchors) :
    (listAnchors.run c connection).1 = .ok (.anchors connection.store.listed) := by
  have gave : readingAll (c.session connection) = .ok connection.store.anchors := readingAll_unfaulted unfaulted table
  cases ran : listAnchors.run c connection with
  | mk result after =>
      cases result with
      | ok rows =>
          have returns := run_ok ran
          generalize after.store = store at returns
          cases returns with
          | listAnchors gave' =>
              rw [gave] at gave'
              cases gave'
              rfl
      | error failure =>
          have fails := (run_error ran).2
          cases fails with
          | broken met =>
              rw [gave] at met
              cases met

theorem run_listAssetsForAnchor (unfaulted : c.fault = none) (legal : connection.store.Legal) {anchor : Anchor}
    (member : anchor ∈ connection.store.anchors) (table : connection.store.assetTable = some connection.store.assets)
    {raw : Text} (read : EntityId.parse? raw = some anchor.id) :
    ((listAssetsForAnchor raw).run c connection).1 = .ok (.assets (connection.store.owned anchor.id)) := by
  have gave (id : EntityId) : listing id (c.session connection) = .ok (connection.store.assetsOf id) :=
    listing_unfaulted unfaulted table id
  cases ran : (listAssetsForAnchor raw).run c connection with
  | mk result after =>
      cases result with
      | ok rows =>
          have returns := run_ok ran
          generalize after.store = store at returns
          cases returns with
          | listAssetsForAnchor old gave' =>
              rw [gave] at gave'
              cases gave'
              rw [Option.some.inj (read.symm.trans old.mem.2)]
              rfl
      | error failure =>
          have fails := (run_error ran).2
          cases fails with
          | lookup fails => exact absurd read (fails.unnamed unfaulted legal anchor member)
          | broken old met =>
              rw [gave] at met
              cases met

end Repository.Invocation

section Effects

variable {before after : Store} {past : List Event} {c : Circumstances} {invocation : Invocation}
  {outcome : Except Failure Rows}

/-- The assets of an anchor stay as they are, and what a call under it returned comes after them. -/
theorem Store.Effect.assetsOf (effect : before.Effect c invocation outcome after) (owner : EntityId) :
    after.assetsOf owner = before.assetsOf owner ++
      ((Event.issued? owner ⟨c.now, invocation, outcome⟩).map Asset.stored).toList := by
  unfold Store.assetsOf
  rw [effect.assets, List.filter_append]
  congr 1
  cases effect with
  | registered joined | updated read merged => rfl
  | @issued raw p named after read joined =>
      by_cases same : named = owner
      · subst same
        simp [Event.added?, Event.issued?, read, assetRow, Asset.stored]
      · simp [Event.added?, Event.issued?, read, assetRow, Asset.stored, same]
  | nothing registered updated added =>
      rw [added, Event.issued?_of_added? added]
      rfl

theorem filterMap_concat {α : Type} (tell : Event → Option α) (past : List Event) (e : Event) :
    (past ++ [e]).filterMap tell = past.filterMap tell ++ (tell e).toList := by
  rw [List.filterMap_append]
  cases told : tell e <;> simp [told]

end Effects

/-- The rows of a store are those that a history tells of, in its order. -/
structure Store.Lists (store : Store) (past : List Event) : Prop where
  anchors : List.Forall₂ (fun row a => row.stored.Remeasured a) (past.filterMap Event.registered?) store.anchors
  assets : ∀ owner, store.assetsOf owner = (past.filterMap (Event.issued? owner)).map Asset.stored

theorem Store.lists_nil {store : Store} (empty : store.IsEmpty) : store.Lists [] := by
  refine ⟨?_, fun owner => ?_⟩
  · rw [empty.1]
    exact .nil
  · rw [assetsOf, empty.2]
    rfl

theorem Store.Lists.effect {before after : Store} {past : List Event} {c : Circumstances} {invocation : Invocation}
    {outcome : Except Failure Rows} (lists : before.Lists past) (effect : before.Effect c invocation outcome after) :
    after.Lists (past ++ [⟨c.now, invocation, outcome⟩]) := by
  refine ⟨?_, fun owner => ?_⟩
  · rw [effect.anchors, filterMap_concat]
    apply List.rel_append
    · rw [List.forall₂_map_right_iff]
      exact lists.anchors.imp fun row a old => old.trans (Event.remeasured_touch _ a)
    · cases Event.registered? ⟨c.now, invocation, outcome⟩ with
      | none => exact .nil
      | some row => exact .cons (Anchor.remeasured_refl _) .nil
  · rw [effect.assetsOf owner, lists.assets owner, filterMap_concat, List.map_append]
    cases Event.issued? owner ⟨c.now, invocation, outcome⟩ <;> rfl

theorem lists_run {start : Connection} (empty : start.store.IsEmpty) (steps : List Step) :
    (run start steps).store.Lists (history start steps) :=
  history_invariant (I := Store.Lists) (fun _ _ lists effect => lists.effect effect) ⟨start, [], empty, rfl⟩
    (Store.lists_nil empty) steps

/-- Without a registration the anchors stay where they are, remeasured at most. -/
theorem remeasured_run {start : Connection} (reachable : Reachable start) (steps : List Step)
    (none : ∀ e ∈ history start steps, e.registered? = none) :
    List.Forall₂ Anchor.Remeasured start.store.anchors (run start steps).store.anchors := by
  refine history_invariant (I := fun store past => (∀ e ∈ past, e.registered? = .none) →
    List.Forall₂ Anchor.Remeasured start.store.anchors store.anchors) ?_ reachable ?_ steps none
  · intro before after past c invocation outcome _ _ old effect silent
    rw [List.forall_mem_append, List.forall_mem_singleton] at silent
    rw [effect.anchors, silent.2, Option.map_none, Option.toList_none, List.append_nil, List.forall₂_map_right_iff]
    exact (old silent.1).imp fun a b first => first.trans (Event.remeasured_touch _ b)
  · intro _
    exact List.forall₂_same.2 fun a _ => a.remeasured_refl

/-- The first step comes before the second: earlier, or at the same time under a smaller identifier. -/
def Step.Precedes (s t : Step) : Prop :=
  s.circumstances.now.micros < t.circumstances.now.micros ∨
    s.circumstances.now = t.circumstances.now ∧ s.circumstances.freshId.value < t.circumstances.freshId.value

namespace Step

variable {s t : Step} {connection : Connection} {e : Event}

theorem Precedes.comesBefore (precedes : s.Precedes t) :
    comesBefore (.ofClock s.circumstances.now) s.circumstances.freshId (.ofClock t.circumstances.now)
      t.circumstances.freshId := by
  rw [comesBefore_iff]
  show s.circumstances.now.micros < t.circumstances.now.micros ∨
    s.circumstances.now.micros = t.circumstances.now.micros ∧ _
  rcases precedes with earlier | ⟨same, smaller⟩
  · exact .inl earlier
  · exact .inr ⟨congrArg Instant.micros same, le_of_lt smaller⟩

/-- What a step registers has the time and the identifier of the step. -/
theorem eq_of_registered (made : s.event? connection = some e) {row : Anchor} (told : e.registered? = some row) :
    ∃ p, row = anchorRow p s.circumstances.freshId s.circumstances.now := by
  obtain ⟨invocation, -, rfl⟩ := Option.map_eq_some_iff.1 made
  cases ran : invocation.run s.circumstances connection with
  | mk result after =>
      rw [ran] at told
      cases result with
      | error failure => cases invocation <;> cases told
      | ok rows =>
          have returns := Invocation.run_ok ran
          generalize after.store = store at returns
          cases returns with
          | @createAnchor p after valid written =>
              cases told
              exact ⟨p, rfl⟩
          | _ => cases told

theorem eq_of_issued {owner : EntityId} (made : s.event? connection = some e) {row : Asset}
    (told : e.issued? owner = some row) :
    ∃ p, row = assetRow p owner s.circumstances.freshId s.circumstances.now := by
  obtain ⟨invocation, -, rfl⟩ := Option.map_eq_some_iff.1 made
  cases ran : invocation.run s.circumstances connection with
  | mk result after =>
      rw [ran] at told
      cases result with
      | error failure => cases invocation <;> cases told
      | ok rows =>
          have returns := Invocation.run_ok ran
          generalize after.store = store at returns
          cases returns with
          | @createAsset raw p anchor after valid old written =>
              obtain ⟨read, same⟩ := Option.ite_none_right_eq_some.1 told
              rw [old.mem.2, Option.some.injEq] at read
              rw [← Option.some.inj same, read]
              exact ⟨p, rfl⟩
          | _ => cases told

end Step

section Ordered

variable {start : Connection} {steps : List Step}

/-- In ordered runs anchors are stored in the order of lists. -/
theorem pairwise_anchors_run (empty : start.store.IsEmpty) (ordered : steps.Pairwise Step.Precedes) :
    (run start steps).store.anchors.Pairwise fun a b => a.before b := by
  have registered : ((history start steps).filterMap Event.registered?).Pairwise fun a b => a.before b := by
    refine pairwise_filterMap_history ?_ ordered start
    intro s t connection connection' e e' a b precedes made told made' told'
    obtain ⟨p, rfl⟩ := Step.eq_of_registered made told
    obtain ⟨q, rfl⟩ := Step.eq_of_registered made' told'
    exact precedes.comesBefore
  refine pairwise_of_forall₂ ?_ (lists_run empty steps).anchors registered
  intro row row' a b first second sorted
  rw [← first.before_eq second]
  exact sorted

theorem pairwise_assetsOf_run (empty : start.store.IsEmpty) (ordered : steps.Pairwise Step.Precedes)
    (owner : EntityId) : ((run start steps).store.assetsOf owner).Pairwise fun a b => a.before b := by
  rw [(lists_run empty steps).assets owner, List.pairwise_map]
  refine pairwise_filterMap_history ?_ ordered start
  intro s t connection connection' e e' a b precedes made told made' told'
  obtain ⟨p, rfl⟩ := Step.eq_of_issued made told
  obtain ⟨q, rfl⟩ := Step.eq_of_issued made' told'
  exact precedes.comesBefore

end Ordered

/-- What the lists on a connection give of the history that led to it: every stored anchor once and in order, under
each anchor the assets that were created under it, once and in order, and all of them together all assets. -/
structure Connection.ListsAll (connection : Connection) (past : List Event) : Prop where
  anchors : ∀ later : Circumstances, later.fault = none →
    (Invocation.listAnchors.run later connection).1 = .ok (.anchors connection.store.listed)
  complete : connection.store.listed.Perm connection.store.anchors
  distinct : (connection.store.listed.map Anchor.id).Nodup
  sorted : connection.store.listed.Pairwise fun a b => a.before b
  assets : ∀ anchor ∈ connection.store.anchors, ∀ raw, EntityId.parse? raw = some anchor.id →
    ∀ later : Circumstances, later.fault = none →
      ((Invocation.listAssetsForAnchor raw).run later connection).1 = .ok (.assets (connection.store.owned anchor.id))
  ownedComplete : ∀ anchor ∈ connection.store.anchors,
    (connection.store.owned anchor.id).Perm ((past.filterMap (Event.issued? anchor.id)).map Asset.stored)
  ownedDistinct : ∀ anchor ∈ connection.store.anchors, ((connection.store.owned anchor.id).map Asset.id).Nodup
  ownedSorted : ∀ anchor ∈ connection.store.anchors,
    (connection.store.owned anchor.id).Pairwise fun a b => a.before b
  partition : (connection.store.listed.flatMap fun anchor => connection.store.owned anchor.id).Perm
    connection.store.assets

/-- After any run on empty tables the lists give back the history. Where its steps come in the order of times and
identifiers, the list of anchors is the sequence of successful registrations, each row remeasured at most, and the
list of an anchor's assets is the sequence of successful calls under it; and as long as nothing is registered, no two
anchors ever change places. -/
theorem run_lists {start : Connection} (empty : start.store.IsEmpty) (anchorTable : start.store.hasTable .insertAnchor)
    (assetTable : start.store.hasTable .insertAsset) (steps : List Step) :
    (run start steps).ListsAll (history start steps) ∧
    (steps.Pairwise Step.Precedes →
      List.Forall₂ (fun row a => row.stored.Remeasured a) ((history start steps).filterMap Event.registered?)
        (run start steps).store.listed ∧
      ∀ owner, (run start steps).store.owned owner =
        ((history start steps).filterMap (Event.issued? owner)).map Asset.stored) ∧
    ∀ more, (∀ e ∈ history (run start steps) more, e.registered? = none) →
      List.Forall₂ Anchor.Remeasured (run start steps).store.listed (run (run start steps) more).store.listed := by
  have reachable : Reachable (run start steps) := ⟨start, steps, empty, rfl⟩
  have legal := reachable.legal
  have lists := lists_run empty steps
  rw [← run_hasTable start steps] at anchorTable assetTable
  have listed : (run start steps).store.listed.Perm (run start steps).store.anchors := List.mergeSort_perm _ _
  refine ⟨⟨?_, listed, ?_, Anchor.pairwise_mergeSort _, ?_, ?_, ?_, ?_, Store.flatMap_owned_perm legal⟩, ?_, ?_⟩
  · intro later unfaulted
    exact Invocation.run_listAnchors unfaulted (Store.anchorTable_of_hasTable anchorTable)
  · exact (listed.map Anchor.id).nodup_iff.2 legal.anchorIds
  · intro anchor member raw read later unfaulted
    exact Invocation.run_listAssetsForAnchor unfaulted legal member (Store.assetTable_of_hasTable assetTable) read
  · intro anchor _
    rw [← lists.assets anchor.id]
    exact List.mergeSort_perm _ _
  · intro anchor _
    exact Store.nodup_owned legal anchor.id
  · intro anchor _
    exact Asset.pairwise_mergeSort _
  · intro ordered
    constructor
    · rw [Store.listed, List.mergeSort_of_pairwise (pairwise_anchors_run empty ordered)]
      exact lists.anchors
    · intro owner
      rw [Store.owned, List.mergeSort_of_pairwise (pairwise_assetsOf_run empty ordered owner)]
      exact lists.assets owner
  · intro more silent
    exact forall₂_mergeSort Anchor.Remeasured.before_eq (remeasured_run reachable more silent)

namespace Sample

def token : Payload.NewAsset where
  code := "USD"
  issuer := .absent
  totalSupply := .absent
  numHolders := .absent

def assetId : EntityId := ⟨0xC000000000004000800000000000000E, by decide⟩

def issuing : Circumstances := { now := ⟨6⟩, freshId := assetId }

/-- A registration, and an asset under its anchor. -/
def issuance : List Step := [.call circumstances registration, .call issuing (.createAsset anchorId.toText token)]

end Sample

/-- The asset of the sample is the whole list of its anchor. -/
theorem run_lists_issuance : Sample.start.store.IsEmpty ∧ Sample.issuance.Pairwise Step.Precedes ∧
    ((Invocation.listAssetsForAnchor Sample.anchorId.toText).run Sample.circumstances
      (run Sample.start Sample.issuance)).1 =
        .ok (.assets [(assetRow Sample.token Sample.anchorId Sample.assetId ⟨6⟩).stored]) := by
  have empty : Sample.start.store.IsEmpty := Store.Created.isEmpty .directly
  have ordered : Sample.issuance.Pairwise Step.Precedes :=
    List.pairwise_pair.2 (.inl (show (5 : Int) < 6 by decide))
  obtain ⟨lists, sequence, -⟩ := run_lists empty rfl rfl Sample.issuance
  have issued : (history Sample.start Sample.issuance).filterMap (Event.issued? Sample.anchorId) =
      [assetRow Sample.token Sample.anchorId Sample.assetId ⟨6⟩] := by decide +kernel
  have member : (anchorRow Sample.profile Sample.anchorId ⟨5⟩).stored ∈
      (run Sample.start Sample.issuance).store.anchors := by decide +kernel
  have owned := (sequence ordered).2 Sample.anchorId
  rw [issued] at owned
  refine ⟨empty, ordered, ?_⟩
  rw [lists.assets _ member _ Sample.anchorId.parse?_toText Sample.circumstances rfl]
  exact congrArg (fun rows => Except.ok (Rows.assets rows)) owned

end AnchorRegistry
