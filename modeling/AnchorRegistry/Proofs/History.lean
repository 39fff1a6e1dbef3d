import AnchorRegistry.Proofs.Identifier
import AnchorRegistry.Proofs.Lookup
import AnchorRegistry.Proofs.Metrics

/-! Reads give back the history. An `Event` is a call that was made and what came of it; a history is the list
of events of a run of calls, and `last?` is the last thing that its events tell. After every run each stored
anchor has the profile it was registered with, in each metric the value that the last successful update gave
to it, and the time of its last successful write; and there are no other anchors. The relation between rows
and history is kept by each call, and at the end of a run the reads return just these rows. -/

namespace AnchorRegistry

open Repository (Invocation Rows anchorRow updatedRow)
open Http (Circumstances)

/-- A call that was made, when, and what came of it. -/
structure Event where
  now : Instant
  invocation : Invocation
  outcome : Except Failure Rows

/-- The calls of a run under their circumstances. -/
abbrev Calls := List (Circumstances × Invocation)

/-- The connection that a list of calls leaves. -/
def Calls.run (start : Connection) (calls : Calls) : Connection :=
  AnchorRegistry.run start (calls.map fun (c, invocation) => .call c invocation)

/-- What came of each call of a run. -/
def Calls.history : Connection → Calls → List Event
  | _, [] => []
  | connection, (c, invocation) :: rest =>
      ⟨c.now, invocation, (invocation.run c connection).1⟩ :: history (invocation.run c connection).2 rest

namespace Event

/-- The event is a successful registration of this profile under this identifier. -/
def Registers (e : Event) (id : EntityId) (p : Payload.NewAnchor) : Prop :=
  e.invocation = .createAnchor p ∧ ∃ row : Anchor, e.outcome = .ok (.anchor row) ∧ row.id = id

/-- The value that a successful update of an anchor gives to a metric. -/
def gives? (id : EntityId) (metric : Metric) (e : Event) : Option Number :=
  match e.invocation, e.outcome with
  | .updateAnchorMetrics raw p, .ok _ => if EntityId.parse? raw = some id then (p.entry metric).value? else none
  | _, _ => none

/-- The time of a successful write of an anchor. -/
def writes? (id : EntityId) (e : Event) : Option Instant :=
  match e.invocation, e.outcome with
  | .createAnchor _, .ok (.anchor row) => if row.id = id then some e.now else none
  | .updateAnchorMetrics raw _, .ok _ => if EntityId.parse? raw = some id then some e.now else none
  | _, _ => none

theorem writes?_of_registers {e : Event} {id : EntityId} {p : Payload.NewAnchor} (registers : e.Registers id p) :
    e.writes? id = some e.now := by
  obtain ⟨call, row, returned, same⟩ := registers
  unfold writes?
  rw [call, returned]
  exact if_pos same

theorem gives?_of_writes? {e : Event} {id : EntityId} (silent : e.writes? id = none) (metric : Metric) :
    e.gives? id metric = none := by
  unfold writes? at silent
  unfold gives?
  split
  · rename_i raw p rows call returned
    rw [call, returned] at silent
    simp only [ite_eq_right_iff, reduceCtorEq, imp_false] at silent
    exact if_neg silent
  · rfl

end Event

/-- The last thing that the events of a history tell. -/
def last? {α : Type} (tell : Event → Option α) (past : List Event) : Option α := (past.filterMap tell).getLast?

theorem last?_concat {α : Type} (tell : Event → Option α) (past : List Event) (e : Event) :
    last? tell (past ++ [e]) = (tell e <|> last? tell past) := by
  unfold last?
  rw [List.filterMap_append, List.getLast?_append]
  cases told : tell e <;> simp [told]

/-- The anchor has the profile that was registered, and the time at which it was. -/
structure Anchor.HasProfile (a : Anchor) (p : Payload.NewAnchor) (now : Instant) : Prop where
  accountReference : a.accountReference = p.accountReference.strip
  name : a.name = p.name.strip
  homeDomain : a.homeDomain = p.homeDomain.value?.bind Text.strip?
  description : a.description = p.description.value?
  createdAt : a.createdAt = (Timestamp.ofClock now).stored

theorem Anchor.HasProfile.remeasured {a : Anchor} {p : Payload.NewAnchor} {now : Instant} {metrics : Metrics}
    {updatedAt : Timestamp} (profile : a.HasProfile p now) : { a with metrics, updatedAt }.HasProfile p now :=
  ⟨profile.1, profile.2, profile.3, profile.4, profile.5⟩

/-- The metrics and the time of the row are the last ones that a history tells of it. -/
structure Anchor.IsLatest (a : Anchor) (past : List Event) : Prop where
  metrics : ∀ metric, a.metrics.value? metric =
    ((last? (Event.gives? a.id metric) past).map Number.stored <|> ({} : Metrics).value? metric)
  updatedAt : some a.updatedAt = (last? (Event.writes? a.id) past).map fun now => (Timestamp.ofClock now).stored

/-- The anchors of a store are what a history tells of them, and they are all that it tells of. -/
structure Store.Recounts (store : Store) (past : List Event) : Prop where
  registered : ∀ e ∈ past, ∀ id p, e.Registers id p → ∃ a ∈ store.anchors, a.id = id ∧ a.HasProfile p e.now
  origin : ∀ a ∈ store.anchors, ∃ e ∈ past, ∃ p, e.Registers a.id p ∧ a.HasProfile p e.now
  known : ∀ e ∈ past, ∀ id, e.writes? id ≠ none → ∃ a ∈ store.anchors, a.id = id
  latest : ∀ a ∈ store.anchors, a.IsLatest past

/-- Of an identifier that no event wrote a history tells nothing. -/
theorem last?_eq_none {α : Type} {tell : Event → Option α} {past : List Event} (silent : ∀ e ∈ past, tell e = none) :
    last? tell past = none := by
  rw [last?, List.getLast?_eq_none_iff, List.filterMap_eq_nil_iff]
  exact silent

theorem Anchor.IsLatest.silent {a : Anchor} {past : List Event} (latest : a.IsLatest past) {e : Event}
    (silent : e.writes? a.id = none) : a.IsLatest (past ++ [e]) := by
  refine ⟨fun metric => ?_, ?_⟩
  · rw [last?_concat, Event.gives?_of_writes? silent]
    exact latest.metrics metric
  · rw [last?_concat, silent]
    exact latest.updatedAt

/-- A new row is the latest there is, where no event wrote its identifier before. -/
theorem Anchor.isLatest_registration {p : Payload.NewAnchor} {id : EntityId} {now : Instant} {past : List Event}
    (unknown : ∀ event ∈ past, event.writes? id = none) :
    (anchorRow p id now).stored.IsLatest
      (past ++ [⟨now, .createAnchor p, .ok (.anchor (anchorRow p id now))⟩]) := by
  have same : (anchorRow p id now).stored.id = id := rfl
  constructor
  · intro metric
    rw [last?_concat, same, last?_eq_none fun event old => Event.gives?_of_writes? (unknown event old) metric]
    exact congrArg (fun metrics : Metrics => metrics.value? metric) Metrics.stored_initial
  · have wrote : Event.writes? id ⟨now, .createAnchor p, .ok (.anchor (anchorRow p id now))⟩ = some now :=
      if_pos rfl
    rw [last?_concat, same, wrote]
    rfl

/-- An updated row is the latest there is, if the old one was. -/
theorem Anchor.IsLatest.update {anchor : Anchor} {past : List Event} (latest : anchor.IsLatest past)
    (settled : anchor.Settled) {raw : Text} (read : EntityId.parse? raw = some anchor.id) (p : Payload.MetricsUpdate)
    (now : Instant) : (updatedRow anchor p now).stored.IsLatest
      (past ++ [⟨now, .updateAnchorMetrics raw p, .ok (.anchor (updatedRow anchor p now))⟩]) := by
  have same : (updatedRow anchor p now).stored.id = anchor.id := rfl
  constructor
  · intro metric
    have given : Event.gives? anchor.id metric
        ⟨now, .updateAnchorMetrics raw p, .ok (.anchor (updatedRow anchor p now))⟩ = (p.entry metric).value? :=
      if_pos read
    rw [settled.value?_updatedRow, last?_concat, same, given, latest.metrics metric, Metrics.map_orElse]
    cases (p.entry metric).value? <;> rfl
  · have wrote : Event.writes? anchor.id
        ⟨now, .updateAnchorMetrics raw p, .ok (.anchor (updatedRow anchor p now))⟩ = some now := if_pos read
    rw [last?_concat, same, wrote]
    rfl

namespace Store

variable {before after : Store} {past : List Event} {e : Event}

theorem recounts_nil {store : Store} (empty : store.IsEmpty) : store.Recounts [] := by
  refine ⟨?_, ?_, ?_, ?_⟩ <;> simp [empty.1]

/-- What a call has to keep: no anchor is lost, none comes from nowhere, and each row is what the history and
the new event tell of it. -/
theorem Recounts.concat (recounts : before.Recounts past)
    (kept : ∀ a ∈ before.anchors, ∃ b ∈ after.anchors, a.Remeasured b)
    (came : ∀ b ∈ after.anchors, (∃ a ∈ before.anchors, a.Remeasured b) ∨
      ∃ p, e.Registers b.id p ∧ b.HasProfile p e.now)
    (registered : ∀ id p, e.Registers id p → ∃ a ∈ after.anchors, a.id = id ∧ a.HasProfile p e.now)
    (known : ∀ id, e.writes? id ≠ none → ∃ a ∈ after.anchors, a.id = id)
    (latest : ∀ b ∈ after.anchors, b.IsLatest (past ++ [e])) : after.Recounts (past ++ [e]) := by
  refine ⟨?_, ?_, ?_, latest⟩
  · intro event member id p registers
    rw [List.mem_append, List.mem_singleton] at member
    rcases member with old | rfl
    · obtain ⟨a, stored, same, profile⟩ := recounts.registered event old id p registers
      obtain ⟨_, now, metrics, updatedAt, rfl⟩ := kept a stored
      exact ⟨_, now, same, profile.remeasured⟩
    · exact registered id p registers
  · intro b stored
    rcases came b stored with ⟨a, was, metrics, updatedAt, rfl⟩ | ⟨p, registers, profile⟩
    · obtain ⟨event, old, p, registers, profile⟩ := recounts.origin a was
      exact ⟨event, List.mem_append_left _ old, p, registers, profile.remeasured⟩
    · exact ⟨e, List.mem_append_right _ List.mem_cons_self, p, registers, profile⟩
  · intro event member id wrote
    rw [List.mem_append, List.mem_singleton] at member
    rcases member with old | rfl
    · obtain ⟨a, stored, same⟩ := recounts.known event old id wrote
      obtain ⟨_, now, metrics, updatedAt, rfl⟩ := kept a stored
      exact ⟨_, now, same⟩
    · exact known id wrote

/-- An event that writes no anchor tells nothing new. -/
theorem Recounts.silent (recounts : before.Recounts past) (same : after.anchors = before.anchors)
    (silent : ∀ id, e.writes? id = none) : after.Recounts (past ++ [e]) := by
  refine recounts.concat ?_ ?_ ?_ ?_ ?_
  · rw [same]
    intro a stored
    exact ⟨a, stored, a.remeasured_refl⟩
  · rw [same]
    intro a stored
    exact .inl ⟨a, stored, a.remeasured_refl⟩
  · intro id p registers
    have wrote := Event.writes?_of_registers registers
    rw [silent id] at wrote
    cases wrote
  · intro id wrote
    exact absurd (silent id) wrote
  · rw [same]
    intro a stored
    exact (recounts.latest a stored).silent (silent a.id)

/-- A registration starts the history of its row. -/
theorem Recounts.registration (recounts : before.Recounts past) {p : Payload.NewAnchor} {id : EntityId}
    {now : Instant} (joined : before.AnchorJoined (anchorRow p id now) after) :
    after.Recounts (past ++ [⟨now, .createAnchor p, .ok (.anchor (anchorRow p id now))⟩]) := by
  have profile : (anchorRow p id now).stored.HasProfile p now := ⟨rfl, rfl, rfl, rfl, rfl⟩
  have added : (anchorRow p id now).stored ∈ after.anchors := by
    rw [joined.anchors]
    exact List.mem_append_right _ List.mem_cons_self
  have unknown : ∀ event ∈ past, event.writes? id = none := by
    intro event old
    by_contra wrote
    obtain ⟨a, stored, same⟩ := recounts.known event old id wrote
    exact joined.newId a stored same
  refine recounts.concat ?_ ?_ ?_ ?_ ?_
  · intro a stored
    rw [joined.anchors]
    exact ⟨a, List.mem_append_left _ stored, a.remeasured_refl⟩
  · intro b stored
    rw [joined.anchors, List.mem_append, List.mem_singleton] at stored
    rcases stored with old | rfl
    · exact .inl ⟨b, old, b.remeasured_refl⟩
    · exact .inr ⟨p, ⟨rfl, _, rfl, rfl⟩, profile⟩
  · rintro _ _ ⟨call, row, returned, rfl⟩
    cases call
    cases returned
    exact ⟨_, added, rfl, profile⟩
  · intro other wrote
    refine ⟨_, added, ?_⟩
    by_contra different
    exact wrote (if_neg different)
  · intro b stored
    rw [joined.anchors, List.mem_append, List.mem_singleton] at stored
    rcases stored with old | rfl
    · exact (recounts.latest b old).silent (if_neg (joined.newId b old).symm)
    · exact Anchor.isLatest_registration unknown

/-- An update goes on with the history of the one row that it names. -/
theorem Recounts.update (recounts : before.Recounts past) (legal : before.Legal) (settled : before.Settled)
    {raw : Text} {p : Payload.MetricsUpdate} {anchor : Anchor} {now : Instant}
    (member : anchor ∈ before.anchors) (read : EntityId.parse? raw = some anchor.id)
    (replaced : before.AnchorReplaced (updatedRow anchor p now) after) :
    after.Recounts (past ++ [⟨now, .updateAnchorMetrics raw p, .ok (.anchor (updatedRow anchor p now))⟩]) := by
  have row := (settled.anchors anchor member).remeasured p now
  have sole : ∀ a ∈ before.anchors, a.id = anchor.id → a = anchor := by
    intro a stored same
    exact List.inj_on_of_nodup_map legal.anchorIds stored member same
  have image : ∀ a ∈ before.anchors, a.Remeasured
      (if a.id = (updatedRow anchor p now).id then (updatedRow anchor p now).stored else a) := by
    intro a stored
    split
    · rename_i same
      rw [sole a stored same]
      exact row
    · exact a.remeasured_refl
  refine recounts.concat ?_ ?_ ?_ ?_ ?_
  · intro a stored
    rw [replaced.anchors]
    exact ⟨_, List.mem_map_of_mem stored, image a stored⟩
  · intro b stored
    rw [replaced.anchors] at stored
    obtain ⟨a, was, rfl⟩ := List.mem_map.1 stored
    exact .inl ⟨a, was, image a was⟩
  · rintro _ _ ⟨call, -⟩
    cases call
  · intro id wrote
    have named : EntityId.parse? raw = some id := by
      by_contra other
      exact wrote (if_neg other)
    rw [read, Option.some.injEq] at named
    have self : anchor.id = (updatedRow anchor p now).id := rfl
    rw [replaced.anchors]
    refine ⟨_, List.mem_map_of_mem member, ?_⟩
    rw [if_pos self]
    exact named
  · intro b stored
    rw [replaced.anchors] at stored
    obtain ⟨a, was, rfl⟩ := List.mem_map.1 stored
    split
    · exact (recounts.latest anchor member).update (settled.anchors anchor member) read p now
    · rename_i other
      refine (recounts.latest a was).silent (if_neg fun named => ?_)
      rw [read, Option.some.injEq] at named
      exact other named.symm

end Store

section Runs

variable {connection : Connection} {past : List Event}

theorem Store.Recounts.call (recounts : connection.store.Recounts past) (legal : connection.store.Legal)
    (settled : connection.store.Settled) (c : Circumstances) (invocation : Invocation) :
    (invocation.run c connection).2.store.Recounts
      (past ++ [⟨c.now, invocation, (invocation.run c connection).1⟩]) := by
  cases ran : invocation.run c connection with
  | mk result after =>
      cases result with
      | error failure =>
          have kept := (Invocation.run_error ran).1
          refine recounts.silent (congrArg Store.anchors kept) fun id => ?_
          cases invocation <;> rfl
      | ok rows =>
          have returns := Invocation.run_ok ran
          simp only
          generalize after.store = store at returns ⊢
          cases returns with
          | createAnchor valid written =>
              exact recounts.registration (Store.anchorJoined (Session.eq_ok_of_attempt written))
          | updateAnchorMetrics valid old consistent written =>
              exact recounts.update legal settled old.mem.1 old.mem.2
                (Store.anchorReplaced (Session.eq_ok_of_attempt written))
          | createAsset valid old written =>
              exact recounts.silent (Store.assetJoined (Session.eq_ok_of_attempt written)).anchors fun id => rfl
          | _ => exact recounts.silent rfl fun id => rfl

theorem Calls.recounts_run (recounts : connection.store.Recounts past) (legal : connection.store.Legal)
    (settled : connection.store.Settled) (calls : Calls) :
    (calls.run connection).store.Recounts (past ++ calls.history connection) := by
  induction calls generalizing connection past with
  | nil =>
      rw [history, List.append_nil]
      exact recounts
  | cons call rest ih =>
      obtain ⟨c, invocation⟩ := call
      have changed := invocation.run_change c connection
      have after := ih (recounts.call legal settled c invocation) (legal.change changed) (settled.change changed)
      rw [List.append_assoc] at after
      exact after

end Runs

/-- What was told once is not forgotten. -/
theorem last?_ne_none {α : Type} {tell : Event → Option α} {past : List Event} {e : Event} (member : e ∈ past)
    (told : tell e ≠ none) : last? tell past ≠ none := by
  obtain ⟨a, given⟩ := Option.ne_none_iff_exists'.1 told
  rw [last?, Ne, List.getLast?_eq_none_iff]
  exact List.ne_nil_of_mem (List.mem_filterMap.2 ⟨e, member, given⟩)

/-- A metric that some event gave is never null again. -/
theorem Anchor.IsLatest.value?_ne_none {a : Anchor} {past : List Event} (latest : a.IsLatest past) {e : Event}
    (member : e ∈ past) {metric : Metric} (given : e.gives? a.id metric ≠ none) :
    a.metrics.value? metric ≠ none := by
  obtain ⟨n, last⟩ := Option.ne_none_iff_exists'.1 (last?_ne_none member given)
  rw [latest.metrics metric, last]
  exact Option.some_ne_none _

/-- After any run of calls on correctly created tables, an anchor that was registered reads back under its
identifier and under its account with the registered profile and the latest metrics, and an account that no
call registered is not found. -/
theorem Calls.reads_recount_history {start : Connection} (created : start.store.Created) (calls : Calls)
    {later : Circumstances} (unfaulted : later.fault = none) :
    (∀ e ∈ calls.history start, ∀ id p, e.Registers id p → ∃ anchor : Anchor,
      anchor.id = id ∧ anchor.HasProfile p e.now ∧ anchor.IsLatest (calls.history start) ∧
      (∀ metric, (∃ f ∈ calls.history start, f.gives? id metric ≠ none) → anchor.metrics.value? metric ≠ none) ∧
      EntityId.parse? id.toText = some id ∧
      (∀ raw, EntityId.parse? raw = some id →
        ((Invocation.getAnchorById raw).run later (calls.run start)).1 = .ok (.anchor anchor)) ∧
      ∀ raw : Text, raw.strip = anchor.accountReference →
        ((Invocation.getAnchorByAccount raw).run later (calls.run start)).1 = .ok (.anchor anchor)) ∧
    ∀ raw : Text, raw.Storable →
      (∀ e ∈ calls.history start, ∀ id p, e.Registers id p → p.accountReference.strip ≠ raw.strip) →
      ((Invocation.getAnchorByAccount raw).run later (calls.run start)).1 =
        .error (.missingAccount raw.strip later.now) := by
  have reachable : Reachable (calls.run start) := created.reachable _
  have unique : (calls.run start).store.uniqueAccounts := created.uniqueAccounts _
  have recounts : (calls.run start).store.Recounts (calls.history start) := by
    have fresh : Reachable start := created.reachable []
    exact recounts_run (Store.recounts_nil created.isEmpty) fresh.legal fresh.settled calls
  constructor
  · intro e member id p registers
    obtain ⟨anchor, stored, rfl, profile⟩ := recounts.registered e member id p registers
    have latest := recounts.latest anchor stored
    refine ⟨anchor, rfl, profile, latest, ?_, anchor.id.parse?_toText, ?_, ?_⟩
    · rintro metric ⟨f, among, given⟩
      exact latest.value?_ne_none among given
    · intro raw read
      exact Invocation.run_getAnchorById unfaulted reachable.legal stored read
    · intro raw same
      exact Invocation.run_getAnchorByAccount unfaulted reachable.legal reachable.settled unique stored same
  · intro raw storable unregistered
    refine Invocation.run_getAnchorByAccount_missing unfaulted (run_tables created _).1 storable ?_
    intro a stored
    obtain ⟨e, member, p, registers, profile⟩ := recounts.origin a stored
    rw [profile.accountReference]
    exact unregistered e member a.id p registers

/-- The sample registers an anchor, and by its account the anchor is found. -/
theorem Calls.reads_recount_registration :
    Sample.start.store.Created ∧ Sample.circumstances.fault = none ∧
      ∃ anchor : Anchor, anchor.HasProfile Sample.profile ⟨5⟩ ∧
        ((Invocation.getAnchorByAccount "GACME").run Sample.circumstances
          (Calls.run Sample.start [(Sample.circumstances, Sample.registration)])).1 = .ok (.anchor anchor) := by
  have created : Sample.start.store.Created := .directly
  refine ⟨created, rfl, ?_⟩
  have reads := Calls.reads_recount_history created [(Sample.circumstances, Sample.registration)]
    (show Sample.circumstances.fault = none from rfl)
  have returned : (Sample.registration.run Sample.circumstances Sample.start).1 =
      .ok (.anchor (anchorRow Sample.profile Sample.anchorId ⟨5⟩)) := by decide +kernel
  have registers : Event.Registers
      ⟨Sample.circumstances.now, Sample.registration, (Sample.registration.run Sample.circumstances Sample.start).1⟩
      Sample.anchorId Sample.profile := by
    rw [returned]
    exact ⟨rfl, _, rfl, rfl⟩
  obtain ⟨anchor, -, profile, -, -, -, -, byAccount⟩ := reads.1 _ List.mem_cons_self _ _ registers
  refine ⟨anchor, profile, byAccount "GACME" ?_⟩
  rw [profile.accountReference]
  decide +kernel

end AnchorRegistry
