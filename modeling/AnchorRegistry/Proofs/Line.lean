import AnchorRegistry.Log.Entry
import AnchorRegistry.Proofs.Effective
import AnchorRegistry.Proofs.Json

/-! Lines of the log. The line of an entry is one object of texts, and no key of it occurs twice: the four that every
line has, the known attributes that are set, and a failure that was reported. So a line is never broken by what a
caller wrote, and what reads it finds under each key the very text that was logged. An entry without arguments is
logged with its template as it is, percent signs and all. -/

namespace AnchorRegistry

section LastValue

variable {α β : Type}

theorem lastValue?_map (f : α → β) (key : Text) (members : List (Text × α)) :
    lastValue? key (members.map fun member => (member.1, f member.2)) = (lastValue? key members).map f := by
  induction members with
  | nil => rfl
  | cons member rest ih =>
      rw [List.map_cons, lastValue?_cons, lastValue?_cons, ih]
      cases lastValue? key rest with
      | some value => rfl
      | none => by_cases same : member.1 = key <;> simp [same]

/-- The names that have a value, with their values. -/
def tabulate (value? : Text → Option α) (names : List Text) : List (Text × α) :=
  names.filterMap fun name => (value? name).map fun value => (name, value)

theorem tabulate_cons (value? : Text → Option α) (name : Text) (names : List Text) :
    tabulate value? (name :: names) =
      (value? name).toList.map (fun value => (name, value)) ++ tabulate value? names := by
  unfold tabulate
  rw [List.filterMap_cons]
  cases value? name <;> rfl

theorem lastValue?_tabulate (value? : Text → Option α) (key : Text) (names : List Text) :
    lastValue? key (tabulate value? names) = if key ∈ names then value? key else none := by
  induction names with
  | nil => rfl
  | cons name names ih =>
      have first : lastValue? key ((value? name).toList.map fun value => (name, value)) =
          if key = name then value? key else none := by
        by_cases same : key = name
        · subst same
          cases value? key <;> simp [lastValue?]
        · cases value? name <;> simp [lastValue?, same, Ne.symm same]
      rw [tabulate_cons, lastValue?_append, ih, first]
      rcases eq_or_ne key name with rfl | other
      · by_cases later : key ∈ names
        · cases value? key <;> simp [later]
        · simp [later]
      · by_cases later : key ∈ names
        · cases value? key <;> simp [later, other]
        · simp [later, other]

theorem keys_tabulate (value? : Text → Option α) (names : List Text) :
    (tabulate value? names).map Prod.fst = names.filter fun name => (value? name).isSome := by
  induction names with
  | nil => rfl
  | cons name names ih =>
      rw [tabulate_cons, List.map_append, ih, List.filter_cons]
      cases value? name <;> rfl

theorem tabulate_congr {value? other? : Text → Option α} {names : List Text}
    (same : ∀ name ∈ names, value? name = other? name) : tabulate value? names = tabulate other? names := by
  refine List.filterMap_congr fun name member => ?_
  rw [same name member]

end LastValue

namespace Log

/-- The keys that every line has. -/
def fixedNames : List Text := ["timestamp", "level", "logger", "message"]

/-- The names of the attributes that a line shows. -/
def attributeNames : List Text := ["anchor_id", "account_reference", "error_code", "path", "operation"]

/-- All keys that a line can have, in the order in which it has them. -/
def lineNames : List Text := fixedNames ++ attributeNames ++ [("exception" : Text)]

theorem nodup_lineNames : lineNames.Nodup := by decide

namespace Entry

variable (e : Entry) (now : Instant) (message : Text)

/-- What the line of an entry says under each of its keys. -/
def said? (key : Text) : Option Text :=
  if key = ("timestamp" : Text) then some now.toUtcText
  else if key = ("level" : Text) then some e.level.name
  else if key = ("logger" : Text) then some e.source
  else if key = ("message" : Text) then some message
  else if key = ("exception" : Text) then e.exception
  else e.attribute? key

theorem said?_attribute {name : Text} (known : name ∈ attributeNames) :
    e.said? now message name = e.attribute? name := by
  have apart : ∀ name ∈ attributeNames, name ≠ "timestamp" ∧ name ≠ "level" ∧ name ≠ "logger" ∧ name ≠ "message" ∧
      name ≠ "exception" := by decide
  obtain ⟨timestamp, level, logger, message, exception⟩ := apart name known
  rw [said?, if_neg timestamp, if_neg level, if_neg logger, if_neg message, if_neg exception]

/-- The members of the line of an entry are what it says under each key that it has. -/
theorem members_record : (e.record message).members now e.exception =
    (tabulate (e.said? now message) lineNames).map fun member => (member.1, Json.string member.2) := by
  have fixed : tabulate (e.said? now message) fixedNames =
      [(("timestamp" : Text), now.toUtcText), ("level", e.level.name), ("logger", e.source),
        ("message", message)] := rfl
  have attributes : tabulate (e.said? now message) attributeNames = e.extras.present :=
    tabulate_congr fun name known => e.said?_attribute now message known
  have failure : tabulate (e.said? now message) [("exception" : Text)] =
      e.exception.toList.map fun t => (("exception" : Text), t) := by
    rw [tabulate_cons]
    exact List.append_nil _
  have parts (before after : List Text) : tabulate (e.said? now message) (before ++ after) =
      tabulate (e.said? now message) before ++ tabulate (e.said? now message) after := List.filterMap_append
  rw [lineNames, parts, parts, fixed, attributes, failure, List.map_append, List.map_append, List.map_map]
  rfl

theorem textual_members : Json.Textual ((e.record message).members now e.exception) := by
  rw [members_record]
  intro member among
  obtain ⟨entry, -, rfl⟩ := List.mem_map.1 among
  exact ⟨entry.2, rfl⟩

theorem members_ne_nil : (e.record message).members now e.exception ≠ [] := List.cons_ne_nil _ _

theorem keys_members : ((e.record message).members now e.exception).map Prod.fst =
    lineNames.filter fun name => (e.said? now message name).isSome := by
  rw [members_record, List.map_map]
  exact keys_tabulate _ _

theorem lastValue?_members (key : Text) : lastValue? key ((e.record message).members now e.exception) =
    if key ∈ lineNames then (e.said? now message key).map Json.string else none := by
  rw [members_record, lastValue?_map, lastValue?_tabulate]
  split <;> rfl

/-- The line of an entry is an object of the texts that the entry says, and nothing else; it stays on one line. -/
theorem line_reads_back :
    (e.arguments = [] → e.message = .ok e.template) ∧
    ∀ message, e.message = .ok message →
      ∃ line members, e.line now = .ok line ∧ line.Unbroken ∧ Json.read line = .ok (.object members) ∧
        members.map Prod.fst = lineNames.filter (fun name => (e.said? now message name).isSome) ∧
        (members.map Prod.fst).Nodup ∧
        ∀ key, lastValue? key members =
          if key ∈ lineNames then (e.said? now message key).map Json.string else none := by
  refine ⟨fun plain => if_pos plain, fun message filled => ?_⟩
  have texts := e.textual_members now message
  have nonempty := e.members_ne_nil now message
  have keys := e.keys_members now message
  have written : e.line now = .ok ((e.record message).line now e.exception) := by
    rw [line, filled]
    rfl
  have read : Json.read ((e.record message).line now e.exception) =
      .ok (.object ((e.record message).members now e.exception)) := Json.read_write_object texts nonempty
  refine ⟨_, _, written, Json.unbroken_write_object texts, read, keys, ?_, e.lastValue?_members now message⟩
  rw [keys]
  exact nodup_lineNames.filter _

/-- A path with a line separator, a line break, a null character, and surrogates, two as a pair and one alone. -/
def hostilePath : Text :=
  ("/a\u2028b\n\u0000" : Text) ++ [⟨0xD83D, by decide⟩, ⟨0xDE00, by decide⟩, ⟨0xDC01, by decide⟩]

/-- An entry whose texts try to end their line and to begin another, with a placeholder and no argument for it. -/
def forging : Entry where
  level := .warning
  source := "client\\"
  template := "100%s of \"all\"\n\x7b\"level\": \"CRITICAL\"\x7d\r\t"
  attributes := [("path", .text "/ignored"), ("anchor_id", .nothing), ("note", .text "\n"), ("operation", .truth true),
    ("path", .text hostilePath)]
  exception := some "ValueError: \"\n\"\n"

/-- The forging entry stays on one line, which says what was logged, the placeholder and the surrogates included. -/
theorem line_reads_back_forging : ∃ line members, forging.line default = .ok line ∧ line.Unbroken ∧
    Json.read line = .ok (.object members) ∧
    members.map Prod.fst = ["timestamp", "level", "logger", "message", "path", "operation", "exception"] ∧
    lastValue? "message" members = some (.string forging.template) ∧
    lastValue? "path" members = some (.string hostilePath) ∧
    lastValue? "operation" members = some (.string "True") ∧
    lastValue? "anchor_id" members = none ∧ lastValue? "note" members = none := by
  obtain ⟨plain, filled⟩ := forging.line_reads_back default
  obtain ⟨line, members, written, unbroken, read, keys, -, told⟩ := filled _ (plain rfl)
  refine ⟨line, members, written, unbroken, read, keys.trans (by decide), ?_, ?_, ?_, ?_, ?_⟩
  · exact (told "message").trans rfl
  · exact (told "path").trans rfl
  · exact (told "operation").trans rfl
  · exact (told "anchor_id").trans rfl
  · exact (told "note").trans rfl

end Entry

end Log

end AnchorRegistry
