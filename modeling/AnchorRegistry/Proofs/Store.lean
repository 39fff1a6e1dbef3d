import AnchorRegistry.Store

/-! Statements on a store, by what they take and what they leave. A write succeeds exactly where its table
is there, its texts have an encoding and the rows that are there admit the new one; it then adds or replaces
that one row. Every other outcome is a fault that says which of these was missing. -/

namespace AnchorRegistry.Store

/-- The anchors that are stored; none without a table. -/
def anchors (store : Store) : List Anchor := store.anchorTable.getD []

/-- The assets that are stored; none without a table. -/
def assets (store : Store) : List Asset := store.assetTable.getD []

variable {store after : Store} {prepared : Bool}

theorem anchors_of_table {rows : List Anchor} (table : store.anchorTable = some rows) :
    store.anchors = rows := by
  rw [anchors, table, Option.getD_some]

theorem assets_of_table {rows : List Asset} (table : store.assetTable = some rows) : store.assets = rows := by
  rw [assets, table, Option.getD_some]

theorem encodable_eq_ok {texts : List Text} {u : Unit} :
    encodable texts = .ok u ↔ ∀ t ∈ texts, t.Storable := by
  unfold encodable
  cases found : texts.find? fun t => !decide t.Storable with
  | none => simpa using found
  | some t =>
      have unstorable := List.find?_some found
      simp only [reduceCtorEq, false_iff]
      intro all
      simp [all t (List.mem_of_find?_eq_some found)] at unstorable

theorem encodable_eq_error {texts : List Text} {failure : Failure} (h : encodable texts = .error failure) :
    ∃ t ∈ texts, ¬t.Storable ∧ failure = .unforeseen (.unencodable t) := by
  unfold encodable at h
  split at h
  · rename_i t found
    cases h
    exact ⟨t, List.mem_of_find?_eq_some found, by simpa using List.find?_some found, rfl⟩
  · cases h

theorem admitsAnchor_iff {unique : Bool} {rows : List Anchor} {row : Anchor} :
    admitsAnchor unique rows row ↔
      ∀ a ∈ rows, a.id ≠ row.id ∧ (unique → a.accountReference ≠ row.accountReference) := by
  cases unique <;> simp [admitsAnchor]

theorem admitsAsset_iff {owners : List Anchor} {rows : List Asset} {row : Asset} :
    admitsAsset owners rows row ↔ (∀ a ∈ rows, a.id ≠ row.id) ∧ ∃ owner ∈ owners, owner.id = row.anchorId := by
  simp [admitsAsset]

/-- The rows that a statement finds are those of its table, and its texts were bound. -/
theorem boundRows_eq_ok (prepared : Bool) {α : Type} {table : Option (List α)} {texts : List Text} {rows : List α} :
    boundRows prepared table texts = .ok rows ↔ table = some rows ∧ ∀ t ∈ texts, t.Storable := by
  cases table with
  | none =>
      have lost : boundRows prepared (none : Option (List α)) texts ≠ .ok rows := by
        unfold boundRows Store.rows
        cases prepared <;> cases encodable texts <;> intro h <;> cases h
      simp [lost]
  | some found =>
      rw [boundRows_some, ← encodable_eq_ok (u := ())]
      cases encodable texts <;> simp [Except.map]

theorem selectAnchors_eq_ok {p : Anchor → Bool} {found : List Anchor} :
    store.selectAnchors p = .ok found ↔ ∃ rows, store.anchorTable = some rows ∧ found = rows.filter p := by
  unfold selectAnchors
  cases store.anchorTable with
  | none => simp [Store.rows, Except.map]
  | some rows => simp [Store.rows, Except.map, eq_comm]

theorem selectAssets_eq_ok {p : Asset → Bool} {found : List Asset} :
    store.selectAssets p = .ok found ↔ ∃ rows, store.assetTable = some rows ∧ found = rows.filter p := by
  unfold selectAssets
  cases store.assetTable with
  | none => simp [Store.rows, Except.map]
  | some rows => simp [Store.rows, Except.map, eq_comm]

theorem selectByAccount_eq_ok {accountReference : Text} {found : List Anchor} :
    store.selectByAccount prepared accountReference = .ok found ↔
      ∃ rows, store.anchorTable = some rows ∧ accountReference.Storable ∧
        found = rows.filter fun a => a.accountReference = accountReference := by
  unfold selectByAccount
  cases bound : boundRows prepared store.anchorTable [accountReference] with
  | error failure =>
      simp only [bind, Except.bind, reduceCtorEq, false_iff]
      rintro ⟨rows, table, storable, -⟩
      have available := (boundRows_eq_ok prepared).2 ⟨table, List.forall_mem_singleton.2 storable⟩
      rw [bound] at available
      cases available
  | ok rows =>
      obtain ⟨table, storable⟩ := (boundRows_eq_ok prepared).1 bound
      simp only [bind, Except.bind, pure, Except.pure, Except.ok.injEq]
      constructor
      · rintro rfl
        exact ⟨rows, table, storable _ List.mem_cons_self, rfl⟩
      · rintro ⟨rows', table', -, rfl⟩
        rw [table] at table'
        cases table'
        rfl

/-- With its table there, a look-up of an account is refused only for a text without an encoding. -/
theorem selectByAccount_eq_error {accountReference : Text} {rows : List Anchor} {failure : Failure}
    (table : store.anchorTable = some rows) (h : store.selectByAccount prepared accountReference = .error failure) :
    ¬accountReference.Storable ∧ failure = .unforeseen (.unencodable accountReference) := by
  unfold selectByAccount at h
  rw [table, boundRows_some] at h
  cases encoded : encodable [accountReference] with
  | error reason =>
      rw [encoded] at h
      cases h
      obtain ⟨t, member, unstorable, same⟩ := encodable_eq_error encoded
      rw [List.mem_singleton] at member
      subst member
      exact ⟨unstorable, same⟩
  | ok u =>
      rw [encoded] at h
      cases h

/-- An anchor joins the table as its last row. -/
theorem insertAnchor_eq_ok {row : Anchor} :
    store.insertAnchor prepared row = .ok after ↔
      ∃ rows, store.anchorTable = some rows ∧ (∀ t ∈ row.texts, t.Storable) ∧
        admitsAnchor store.uniqueAccounts rows row ∧
        after = { store with anchorTable := some (rows ++ [row.stored]) } := by
  unfold insertAnchor
  cases bound : boundRows prepared store.anchorTable row.texts with
  | error failure =>
      simp only [bind, Except.bind, reduceCtorEq, false_iff]
      rintro ⟨rows, table, storable, -⟩
      have available := (boundRows_eq_ok prepared).2 ⟨table, storable⟩
      rw [bound] at available
      cases available
  | ok rows =>
      obtain ⟨table, storable⟩ := (boundRows_eq_ok prepared).1 bound
      simp only [bind, Except.bind, pure, Except.pure]
      constructor
      · intro inserted
        split at inserted
        · rename_i admitted
          cases inserted
          exact ⟨rows, table, storable, admitted, rfl⟩
        · cases inserted
      · rintro ⟨rows', table', -, admitted, rfl⟩
        rw [table] at table'
        cases table'
        rw [if_pos admitted]

/-- With its table there, an anchor is refused for a text without an encoding or for a key that is taken. -/
theorem insertAnchor_eq_error {row : Anchor} {rows : List Anchor} {failure : Failure}
    (table : store.anchorTable = some rows) (h : store.insertAnchor prepared row = .error failure) :
    encodable row.texts = .error failure ∨
      ((∀ t ∈ row.texts, t.Storable) ∧ ¬admitsAnchor store.uniqueAccounts rows row ∧
        failure = .storage .integrity) := by
  unfold insertAnchor at h
  rw [table, boundRows_some] at h
  cases encoded : encodable row.texts with
  | error reason =>
      rw [encoded] at h
      cases h
      exact .inl rfl
  | ok u =>
      rw [encoded] at h
      simp only [bind, Except.bind, Except.map, pure, Except.pure] at h
      split at h
      · cases h
      · rename_i refused
        cases h
        exact .inr ⟨encodable_eq_ok.1 encoded, refused, rfl⟩

theorem updateAnchor_eq_ok {row : Anchor} :
    store.updateAnchor row = .ok after ↔
      ∃ rows, store.anchorTable = some rows ∧
        after = { store with anchorTable := some (rows.map fun a => if a.id = row.id then row.stored else a) } := by
  unfold updateAnchor
  cases store.anchorTable with
  | none => simp [Store.rows, bind, Except.bind]
  | some rows => simp [Store.rows, bind, Except.bind, pure, Except.pure, eq_comm]

/-- An asset joins the table as its last row. -/
theorem insertAsset_eq_ok {row : Asset} :
    store.insertAsset prepared row = .ok after ↔
      ∃ rows owners, store.assetTable = some rows ∧ store.anchorTable = some owners ∧
        (∀ t ∈ row.texts, t.Storable) ∧ admitsAsset owners rows row ∧
        after = { store with assetTable := some (rows ++ [row.stored]) } := by
  unfold insertAsset
  cases bound : boundRows prepared store.assetTable row.texts with
  | error failure =>
      simp only [bind, Except.bind, reduceCtorEq, false_iff]
      rintro ⟨rows, owners, table, -, storable, -⟩
      have available := (boundRows_eq_ok prepared).2 ⟨table, storable⟩
      rw [bound] at available
      cases available
  | ok rows =>
      obtain ⟨table, storable⟩ := (boundRows_eq_ok prepared).1 bound
      cases anchors : store.anchorTable with
      | none => simp [Store.rows, bind, Except.bind]
      | some owners =>
          simp only [Store.rows, bind, Except.bind, pure, Except.pure]
          constructor
          · intro inserted
            split at inserted
            · rename_i admitted
              cases inserted
              exact ⟨rows, owners, table, rfl, storable, admitted, rfl⟩
            · cases inserted
          · rintro ⟨rows', owners', table', same, -, admitted, rfl⟩
            rw [table] at table'
            cases table'
            cases same
            rw [if_pos admitted]

/-- With both tables there, an asset is refused for a text without an encoding, a key that is taken or an
owner that is not there. -/
theorem insertAsset_eq_error {row : Asset} {rows : List Asset} {owners : List Anchor} {failure : Failure}
    (table : store.assetTable = some rows) (anchors : store.anchorTable = some owners)
    (h : store.insertAsset prepared row = .error failure) :
    encodable row.texts = .error failure ∨
      ((∀ t ∈ row.texts, t.Storable) ∧ ¬admitsAsset owners rows row ∧ failure = .storage .integrity) := by
  unfold insertAsset at h
  rw [table, anchors, boundRows_some] at h
  cases encoded : encodable row.texts with
  | error reason =>
      rw [encoded] at h
      cases h
      exact .inl rfl
  | ok u =>
      rw [encoded] at h
      simp only [Store.rows, bind, Except.bind, Except.map, pure, Except.pure] at h
      split at h
      · cases h
      · rename_i refused
        cases h
        exact .inr ⟨encodable_eq_ok.1 encoded, refused, rfl⟩

/-- The anchor joined the others, and all else is as it was. -/
structure AnchorJoined (store : Store) (row : Anchor) (after : Store) : Prop where
  anchors : after.anchors = store.anchors ++ [row.stored]
  assets : after.assets = store.assets
  uniqueAccounts : after.uniqueAccounts = store.uniqueAccounts
  newId : ∀ a ∈ store.anchors, a.id ≠ row.id
  newAccount : store.uniqueAccounts → ∀ a ∈ store.anchors, a.accountReference ≠ row.accountReference
  storable : ∀ t ∈ row.texts, t.Storable

theorem anchorJoined {row : Anchor} (written : store.insertAnchor prepared row = .ok after) :
    store.AnchorJoined row after := by
  obtain ⟨rows, table, storable, admitted, rfl⟩ := insertAnchor_eq_ok.1 written
  rw [admitsAnchor_iff] at admitted
  have same := anchors_of_table table
  refine ⟨?_, rfl, rfl, ?_, ?_, storable⟩
  · rw [same]
    rfl
  · rw [same]
    intro a member
    exact (admitted a member).1
  · rw [same]
    intro unique a member
    exact (admitted a member).2 unique

/-- The row was written over the anchor with its identifier, and all else is as it was. -/
structure AnchorReplaced (store : Store) (row : Anchor) (after : Store) : Prop where
  anchors : after.anchors = store.anchors.map fun a => if a.id = row.id then row.stored else a
  assets : after.assets = store.assets
  uniqueAccounts : after.uniqueAccounts = store.uniqueAccounts

theorem anchorReplaced {row : Anchor} (written : store.updateAnchor row = .ok after) :
    store.AnchorReplaced row after := by
  obtain ⟨rows, table, rfl⟩ := updateAnchor_eq_ok.1 written
  refine ⟨?_, rfl, rfl⟩
  rw [anchors_of_table table]
  rfl

/-- The asset joined the others, and all else is as it was. -/
structure AssetJoined (store : Store) (row : Asset) (after : Store) : Prop where
  anchors : after.anchors = store.anchors
  assets : after.assets = store.assets ++ [row.stored]
  uniqueAccounts : after.uniqueAccounts = store.uniqueAccounts
  newId : ∀ a ∈ store.assets, a.id ≠ row.id
  owned : ∃ owner ∈ store.anchors, owner.id = row.anchorId
  storable : ∀ t ∈ row.texts, t.Storable

theorem assetJoined {row : Asset} (written : store.insertAsset prepared row = .ok after) :
    store.AssetJoined row after := by
  obtain ⟨rows, owners, table, anchors, storable, admitted, rfl⟩ := insertAsset_eq_ok.1 written
  rw [admitsAsset_iff] at admitted
  have same := assets_of_table table
  refine ⟨rfl, ?_, rfl, ?_, ?_, storable⟩
  · rw [same]
    rfl
  · rw [same]
    exact admitted.1
  · rw [anchors_of_table anchors]
    exact admitted.2

end AnchorRegistry.Store
