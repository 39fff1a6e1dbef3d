import AnchorRegistry.Proofs.Outcome

/-! Independent writes commute. A write looks at little: a registration at the keys of the anchors, an update at the one
anchor that it names, a call for a new asset at whether its anchor is there and its own identifier is free. What another
write leaves of these decides whether it can make a difference: it appends one row or remeasures one anchor, and nothing
else moves. So two writes that do not meet in an anchor or an account come to the same in either order, and leave the
same rows, though perhaps not in the same places. -/

namespace AnchorRegistry

open Repository (Invocation Rows anchorRow assetRow updatedRow)
open Http (Circumstances)

namespace Repository.Invocation

/-- The call is one of the three that write. -/
def Writes : Invocation → Prop
  | createAnchor _ | updateAnchorMetrics _ _ | createAsset _ _ => True
  | _ => False

/-- The call is an update of this anchor. -/
def Updates (id : EntityId) : Invocation → Prop
  | updateAnchorMetrics raw _ => EntityId.parse? raw = some id
  | _ => False

/-- The call writes to this anchor or under it. -/
def Addresses (id : EntityId) : Invocation → Prop
  | updateAnchorMetrics raw _ | createAsset raw _ => EntityId.parse? raw = some id
  | _ => False

/-- The call creates this anchor. -/
def Creates (invocation : Invocation) (c : Circumstances) (connection : Connection) (row : Anchor) : Prop :=
  Event.registered? ⟨c.now, invocation, (invocation.run c connection).1⟩ = some row

end Repository.Invocation

/-- Two calls are not about the same anchor, nor about the same account. -/
structure Independent (connection : Connection) (c : Circumstances) (x : Invocation) (d : Circumstances)
    (y : Invocation) : Prop where
  updates : ∀ id, ¬(x.Updates id ∧ y.Updates id)
  accounts : ∀ row row', x.Creates c connection row → y.Creates d connection row' →
    row.accountReference ≠ row'.accountReference
  first : ∀ row, x.Creates c connection row → ¬y.Addresses row.id
  second : ∀ row, y.Creates d connection row → ¬x.Addresses row.id

theorem Independent.symm {connection : Connection} {c d : Circumstances} {x y : Invocation}
    (independent : Independent connection c x d y) : Independent connection d y c x where
  updates id both := independent.updates id both.symm
  accounts row row' created created' := (independent.accounts row' row created' created).symm
  first := independent.second
  second := independent.first

/-- The same rows in the same tables, in whatever order. -/
structure Store.SameRows (store other : Store) : Prop where
  anchors : store.anchors.Perm other.anchors
  assets : store.assets.Perm other.assets
  uniqueAccounts : store.uniqueAccounts = other.uniqueAccounts

namespace Event

@[simp] theorem accountReference_touch (e : Event) (a : Anchor) :
    (e.touch a).accountReference = a.accountReference := by
  obtain ⟨metrics, updatedAt, same⟩ := e.remeasured_touch a
  rw [same]

/-- Updates of different anchors do not get in each other's way. -/
theorem touch_comm {e f : Event}
    (different : ∀ row row', e.updated? = some row → f.updated? = some row' → row.id ≠ row'.id) (a : Anchor) :
    f.touch (e.touch a) = e.touch (f.touch a) := by
  by_cases untouched : ∀ row, e.updated? = some row → row.id ≠ a.id
  · have other : e.touch (f.touch a) = f.touch a := by
      refine touch_eq_self fun row updated => ?_
      rw [f.id_touch]
      exact untouched row updated
    rw [touch_eq_self untouched, other]
  · have silent : ∀ b : Anchor, b.id = a.id → f.touch b = b := by
      intro b same
      refine touch_eq_self fun row' updated' equal => untouched fun row updated named => ?_
      exact different row row' updated updated' (named.trans (equal.trans same).symm)
    rw [silent _ (e.id_touch a), silent a rfl]

/-- A row that is new is none that an update of old rows changes. -/
theorem map_touch_registered {e f : Event} {anchors : List Anchor}
    (new : ∀ row, e.registered? = some row → ∀ a ∈ anchors, a.id ≠ row.id)
    (old : ∀ row, f.updated? = some row → ∃ a ∈ anchors, a.id = row.id) :
    (e.registered?.map Anchor.stored).toList.map f.touch = (e.registered?.map Anchor.stored).toList := by
  cases told : e.registered? with
  | none => rfl
  | some row =>
      refine congrArg (fun a => [a]) (touch_eq_self fun row' told' same => ?_)
      obtain ⟨a, stored, equal⟩ := old row' told'
      exact new row told a stored (equal.trans same)

end Event

namespace Store.Effect

variable {before after : Store} {c d : Circumstances} {x : Invocation} {outcome : Except Failure Rows}

section Rows

variable (effect : before.Effect c x outcome after)

include effect

theorem registered_cases {row : Anchor} (told : Event.registered? ⟨c.now, x, outcome⟩ = some row) :
    row.id = c.freshId ∧ ∀ a ∈ before.anchors, a.id ≠ row.id := by
  cases effect with
  | registered joined =>
      cases told
      exact ⟨rfl, joined.newId⟩
  | updated read merged | issued read joined => cases told
  | nothing registered updated added =>
      rw [registered] at told
      cases told

theorem updated_cases {row : Anchor} (told : Event.updated? ⟨c.now, x, outcome⟩ = some row) :
    x.Updates row.id ∧ ∃ a ∈ before.anchors, a.id = row.id := by
  cases effect with
  | registered joined | issued read joined => cases told
  | @updated raw p anchor after read merged =>
      cases told
      exact ⟨read, anchor, merged.member, rfl⟩
  | nothing registered updated added =>
      rw [updated] at told
      cases told

theorem id_added {row : Asset} (told : Event.added? ⟨c.now, x, outcome⟩ = some row) : row.id = c.freshId := by
  cases effect with
  | issued read joined =>
      cases told
      rfl
  | registered joined | updated read merged => cases told
  | nothing registered updated added =>
      rw [added] at told
      cases told

theorem uniqueAccounts_eq : after.uniqueAccounts = before.uniqueAccounts := by
  cases effect with
  | registered joined => exact joined.uniqueAccounts
  | updated read merged =>
      rw [merged.written]
      rfl
  | issued read joined => exact joined.uniqueAccounts
  | nothing registered updated added => rfl

/-- A text names the anchor that it named before, perhaps remeasured, unless it names the one that was created. -/
theorem named?_eq {raw : Text}
    (other : ∀ row, Event.registered? ⟨c.now, x, outcome⟩ = some row → EntityId.parse? raw ≠ some row.id) :
    after.named? raw = (before.named? raw).map (Event.touch ⟨c.now, x, outcome⟩) := by
  unfold named?
  cases read : EntityId.parse? raw with
  | none => rfl
  | some id =>
      have created : (((Event.registered? ⟨c.now, x, outcome⟩).map Anchor.stored).toList.find? fun a => a.id = id) =
          none := by
        rw [List.find?_eq_none]
        intro a member
        obtain ⟨row, told, rfl⟩ := Option.map_eq_some_iff.1 (Option.mem_toList.1 member)
        rw [decide_eq_true_eq]
        rintro rfl
        exact other row told read
      rw [Option.bind_some, Option.bind_some, effect.anchors, List.find?_append, created, Option.or_none,
        List.find?_map]
      congr 2
      funext a
      rw [Function.comp_apply, Event.id_touch]

/-- A row is admitted among the anchors as it was before, unless the one that was created has a key of it. -/
theorem admitsAnchor_eq {row : Anchor}
    (ids : ∀ created, Event.registered? ⟨c.now, x, outcome⟩ = some created → created.id ≠ row.id)
    (accounts : ∀ created, Event.registered? ⟨c.now, x, outcome⟩ = some created →
      admitsAnchor before.uniqueAccounts before.anchors row → created.accountReference ≠ row.accountReference) :
    admitsAnchor after.uniqueAccounts after.anchors row = admitsAnchor before.uniqueAccounts before.anchors row := by
  rw [Bool.eq_iff_iff, effect.uniqueAccounts_eq, effect.anchors]
  simp only [admitsAnchor_iff, List.forall_mem_append, List.forall_mem_map, Event.id_touch,
    Event.accountReference_touch] at accounts ⊢
  refine ⟨And.left, fun old => ⟨old, ?_⟩⟩
  intro a member
  obtain ⟨created, told, rfl⟩ := Option.map_eq_some_iff.1 (Option.mem_toList.1 member)
  exact ⟨ids created told, fun _ => accounts created told old⟩

theorem admitsAsset_eq {row : Asset}
    (ids : ∀ added, Event.added? ⟨c.now, x, outcome⟩ = some added → added.id ≠ row.id)
    (owners : ∀ created, Event.registered? ⟨c.now, x, outcome⟩ = some created → created.id ≠ row.anchorId) :
    admitsAsset after.anchors after.assets row = admitsAsset before.anchors before.assets row := by
  rw [Bool.eq_iff_iff, admitsAsset_iff, admitsAsset_iff, effect.anchors, effect.assets, List.forall_mem_append]
  refine and_congr ⟨And.left, fun old => ⟨old, ?_⟩⟩ ⟨?_, ?_⟩
  · intro a member
    obtain ⟨added, told, rfl⟩ := Option.map_eq_some_iff.1 (Option.mem_toList.1 member)
    exact ids added told
  · rintro ⟨owner, member, same⟩
    rcases List.mem_append.1 member with old | new
    · obtain ⟨a, stored, rfl⟩ := List.mem_map.1 old
      exact ⟨a, stored, (Event.id_touch _ a).symm.trans same⟩
    · obtain ⟨created, told, rfl⟩ := Option.map_eq_some_iff.1 (Option.mem_toList.1 new)
      exact absurd same (owners created told)
  · rintro ⟨a, stored, same⟩
    exact ⟨_, List.mem_append_left _ (List.mem_map_of_mem stored), (Event.id_touch _ a).trans same⟩

end Rows

section Later

variable (effect : before.Effect c x outcome after)

include effect

theorem outcome_createAnchor (distinct : c.freshId ≠ d.freshId) {q : Payload.NewAnchor}
    (accounts : ∀ row row', Event.registered? ⟨c.now, x, outcome⟩ = some row →
      Event.registered? ⟨d.now, .createAnchor q, before.outcome d (.createAnchor q)⟩ = some row' →
        row.accountReference ≠ row'.accountReference) :
    after.outcome d (.createAnchor q) = before.outcome d (.createAnchor q) := by
  cases valid : q.violation with
  | some v => simp only [Store.outcome, refusing, valid, bind, Except.bind]
  | none =>
      cases encoded : encodable (anchorRow q d.freshId d.now).texts with
      | error reason => simp only [Store.outcome, refusing, valid, encoded, bind, Except.bind]
      | ok u =>
          have same : admitsAnchor after.uniqueAccounts after.anchors (anchorRow q d.freshId d.now) =
              admitsAnchor before.uniqueAccounts before.anchors (anchorRow q d.freshId d.now) := by
            refine effect.admitsAnchor_eq ?_ ?_
            · intro created told equal
              exact distinct ((effect.registered_cases told).1.symm.trans equal)
            · intro created told admitted
              -- Admitted before, the row is what the call would have returned.
              refine accounts created (anchorRow q d.freshId d.now) told ?_
              simp only [Store.outcome, refusing, valid, encoded, admitted, bind, Except.bind, if_true]
              rfl
          simp only [Store.outcome, refusing, valid, encoded, same]

theorem outcome_updateAnchorMetrics (legal : before.Legal) {raw : Text} {p : Payload.MetricsUpdate}
    (updates : ∀ id, x.Updates id → EntityId.parse? raw ≠ some id)
    (unaddressed : ∀ row, Event.registered? ⟨c.now, x, outcome⟩ = some row → EntityId.parse? raw ≠ some row.id) :
    after.outcome d (.updateAnchorMetrics raw p) = before.outcome d (.updateAnchorMetrics raw p) := by
  have same : after.named? raw = before.named? raw := by
    rw [effect.named?_eq unaddressed]
    cases found : before.named? raw with
    | none => rfl
    | some anchor =>
        obtain ⟨member, read⟩ := (named?_eq_some legal).1 found
        refine congrArg some (Event.touch_eq_self fun row told equal => ?_)
        refine updates row.id (effect.updated_cases told).1 ?_
        rw [equal]
        exact read
  simp only [Store.outcome, lookUp, same]

theorem outcome_createAsset (legal : before.Legal) (distinct : c.freshId ≠ d.freshId) {raw : Text}
    {p : Payload.NewAsset}
    (unaddressed : ∀ row, Event.registered? ⟨c.now, x, outcome⟩ = some row → EntityId.parse? raw ≠ some row.id) :
    after.outcome d (.createAsset raw p) = before.outcome d (.createAsset raw p) := by
  cases found : before.named? raw with
  | none =>
      have nothing : after.named? raw = none := by rw [effect.named?_eq unaddressed, found, Option.map_none]
      simp only [Store.outcome, lookUp_of_none found, lookUp_of_none nothing, bind, Except.bind]
  | some anchor =>
      obtain ⟨member, read⟩ := (named?_eq_some legal).1 found
      have again : after.named? raw = some (Event.touch ⟨c.now, x, outcome⟩ anchor) := by
        rw [effect.named?_eq unaddressed, found, Option.map_some]
      have same : admitsAsset after.anchors after.assets (assetRow p anchor.id d.freshId d.now) =
          admitsAsset before.anchors before.assets (assetRow p anchor.id d.freshId d.now) := by
        refine effect.admitsAsset_eq ?_ ?_
        · intro added told equal
          exact distinct ((effect.id_added told).symm.trans equal)
        · intro created told equal
          refine unaddressed created told ?_
          rw [equal]
          exact read
      simp only [Store.outcome, lookUp_of_some found, lookUp_of_some again, bind, Except.bind, Event.id_touch, same]

/-- A write comes to the same after an independent one. -/
theorem outcome_eq (legal : before.Legal) (distinct : c.freshId ≠ d.freshId) {y : Invocation} (writes : y.Writes)
    (updates : ∀ id, ¬(x.Updates id ∧ y.Updates id))
    (accounts : ∀ row row', Event.registered? ⟨c.now, x, outcome⟩ = some row →
      Event.registered? ⟨d.now, y, before.outcome d y⟩ = some row' → row.accountReference ≠ row'.accountReference)
    (unaddressed : ∀ row, Event.registered? ⟨c.now, x, outcome⟩ = some row → ¬y.Addresses row.id) :
    after.outcome d y = before.outcome d y := by
  cases y with
  | createAnchor q => exact effect.outcome_createAnchor distinct accounts
  | updateAnchorMetrics raw p =>
      exact effect.outcome_updateAnchorMetrics legal (fun id first second => updates id ⟨first, second⟩) unaddressed
  | createAsset raw p => exact effect.outcome_createAsset legal distinct unaddressed
  | _ => exact writes.elim

end Later

/-- Two effects that can follow each other in either order lead to the same rows. -/
theorem sameRows {left right both other : Store} {y : Invocation} {outcome' : Except Failure Rows}
    (first : before.Effect c x outcome left) (second : left.Effect d y outcome' both)
    (first' : before.Effect d y outcome' right) (second' : right.Effect c x outcome other)
    (updates : ∀ id, ¬(x.Updates id ∧ y.Updates id)) : both.SameRows other := by
  have swap : Event.touch ⟨d.now, y, outcome'⟩ ∘ Event.touch ⟨c.now, x, outcome⟩ =
      Event.touch ⟨c.now, x, outcome⟩ ∘ Event.touch ⟨d.now, y, outcome'⟩ := by
    funext a
    refine Event.touch_comm (fun row row' told told' same => updates row.id ⟨(first.updated_cases told).1, ?_⟩) a
    rw [same]
    exact (first'.updated_cases told').1
  have created := Event.map_touch_registered (fun row told => (first.registered_cases told).2)
    fun row told => (first'.updated_cases told).2
  have created' := Event.map_touch_registered (fun row told => (first'.registered_cases told).2)
    fun row told => (first.updated_cases told).2
  refine ⟨?_, ?_, ?_⟩
  · rw [second.anchors, first.anchors, second'.anchors, first'.anchors, List.map_append, List.map_append, created,
      created', List.map_map, List.map_map, swap, List.append_assoc, List.append_assoc]
    exact List.perm_append_comm.append_left _
  · rw [second.assets, first.assets, second'.assets, first'.assets, List.append_assoc, List.append_assoc]
    exact List.perm_append_comm.append_left _
  · rw [second.uniqueAccounts_eq, first.uniqueAccounts_eq, second'.uniqueAccounts_eq, first'.uniqueAccounts_eq]

end Store.Effect

theorem Reachable.ready {connection : Connection} (reachable : Reachable connection)
    (anchorTable : connection.store.hasTable .insertAnchor) (assetTable : connection.store.hasTable .insertAsset)
    {c : Circumstances} (unfaulted : c.fault = none) : c.Ready connection :=
  ⟨unfaulted, Store.anchorTable_of_hasTable anchorTable, Store.assetTable_of_hasTable assetTable, reachable.legal⟩

namespace Repository.Invocation

variable {connection : Connection} {c d : Circumstances} {x y : Invocation}

theorem run_after (reachable : Reachable connection) (anchorTable : connection.store.hasTable .insertAnchor)
    (assetTable : connection.store.hasTable .insertAsset) (unfaulted : d.fault = none)
    (distinct : c.freshId ≠ d.freshId) (writes : y.Writes) (independent : Independent connection c x d y) :
    (y.run d (x.run c connection).2).1 = (y.run d connection).1 := by
  have onward := reachable.call c x
  have anchors := run_hasTable connection [.call c x] .insertAnchor
  have assets := run_hasTable connection [.call c x] .insertAsset
  have ready := reachable.ready anchorTable assetTable unfaulted
  have ready' := onward.ready (anchors.trans anchorTable) (assets.trans assetTable) unfaulted
  rw [run_outcome ready', run_outcome ready]
  refine (x.run_effect reachable c).outcome_eq reachable.legal distinct writes independent.updates ?_ independent.first
  rw [← run_outcome ready]
  exact independent.accounts

/-- Two writes without faults, under different identifiers, that do not both update one anchor, do not both create one
account, and neither of which addresses an anchor that the other creates, come to the same in either order, and leave
the same rows. -/
theorem run_comm (reachable : Reachable connection) (anchorTable : connection.store.hasTable .insertAnchor)
    (assetTable : connection.store.hasTable .insertAsset) (unfaulted : c.fault = none) (unfaulted' : d.fault = none)
    (distinct : c.freshId ≠ d.freshId) (writes : x.Writes) (writes' : y.Writes)
    (independent : Independent connection c x d y) :
    (y.run d (x.run c connection).2).1 = (y.run d connection).1 ∧
      (x.run c (y.run d connection).2).1 = (x.run c connection).1 ∧
      (y.run d (x.run c connection).2).2.store.SameRows (x.run c (y.run d connection).2).2.store := by
  have second := run_after reachable anchorTable assetTable unfaulted' distinct writes' independent
  have first := run_after reachable anchorTable assetTable unfaulted distinct.symm writes independent.symm
  refine ⟨second, first, ?_⟩
  have last := y.run_effect (reachable.call c x) d
  have last' := x.run_effect (reachable.call d y) c
  rw [second] at last
  rw [first] at last'
  exact (x.run_effect reachable c).sameRows last (y.run_effect reachable d) last' independent.updates

end Repository.Invocation

/-- An update of the sample's anchor and an asset under it may come in either order. -/
theorem Repository.Invocation.run_comm_asset :
    ((createAsset Sample.anchorId.toText Sample.token).run Sample.issuing
        ((updateAnchorMetrics Sample.anchorId.toText Sample.counts).run Sample.circumstances Sample.registered).2).1 =
      .ok (.asset (assetRow Sample.token Sample.anchorId Sample.assetId ⟨6⟩)) := by
  have independent : Independent Sample.registered Sample.circumstances
      (updateAnchorMetrics Sample.anchorId.toText Sample.counts) Sample.issuing
      (createAsset Sample.anchorId.toText Sample.token) := by
    refine ⟨fun id both => both.2, ?_, ?_, ?_⟩
    · intro row row' created
      cases created
    · intro row created
      cases created
    · intro row created
      cases created
  have update : Writes (updateAnchorMetrics Sample.anchorId.toText Sample.counts) := trivial
  have addition : Writes (createAsset Sample.anchorId.toText Sample.token) := trivial
  have same := (run_comm Sample.reachable_registered (by decide +kernel) (by decide +kernel) rfl rfl (by decide) update
    addition independent).1
  rw [same]
  decide +kernel

end AnchorRegistry
