import AnchorRegistry.Engine
import AnchorRegistry.Proofs.Payload
import AnchorRegistry.Settings
import Mathlib.Data.List.TakeWhile

/-! Converted URLs. A URL without a driver is made to name the asynchronous one; all behind the scheme stays as it was,
and what is converted once is never converted again. Settings hold converted URLs only. The parser reads of a converted
URL what it read before, but for the scheme. So a URL for a server or a file names an asynchronous driver unless it
named another driver itself: such a URL is kept as it is, and of those drivers one is there to be used, with which no
engine can be made. -/

namespace AnchorRegistry

namespace Text

variable {t start rest : Text}

theorem dropPrefix?_append (start rest : Text) : (start ++ rest).dropPrefix? start = some rest := by
  unfold dropPrefix?
  rw [if_pos (List.isPrefixOf_iff_prefix.2 (List.prefix_append start rest)), List.drop_left]

theorem dropPrefix?_eq_some_iff : t.dropPrefix? start = some rest ↔ t = start ++ rest := by
  constructor
  · intro dropped
    unfold dropPrefix? at dropped
    split at dropped
    · rename_i begins
      rw [← Option.some.inj dropped]
      exact (List.prefix_iff_eq_append.1 (List.isPrefixOf_iff_prefix.1 begins)).symm
    · cases dropped
  · rintro rfl
    exact dropPrefix?_append start rest

theorem splitOn_eq (separator : CodePoint) (t : Text) : t.splitOn separator = List.splitOn separator t := by
  induction t with
  | nil => rw [List.splitOn_nil, splitOn]
  | cons c rest ih =>
      rw [List.splitOn_cons_eq_if_modifyHead, splitOn, ih]
      by_cases same : c = separator
      · rw [if_pos same, if_pos (beq_iff_eq.2 same)]
      · obtain ⟨piece, pieces, split⟩ := List.exists_cons_of_ne_nil (List.splitOn_ne_nil separator rest)
        rw [if_neg same, if_neg (by simpa using same), split, List.modifyHead_cons]

end Text

namespace DatabaseUrl

section Conversion

theorem toAsync_server (rest : Text) :
    toAsync (("postgresql://" : Text) ++ rest) = ("postgresql+asyncpg://" : Text) ++ rest := by
  unfold toAsync
  rw [Text.dropPrefix?_append]

theorem toAsync_file (rest : Text) :
    toAsync (("sqlite://" : Text) ++ rest) = ("sqlite+aiosqlite://" : Text) ++ rest := by
  have other : Text.dropPrefix? (("sqlite://" : Text) ++ rest) "postgresql://" = none := rfl
  unfold toAsync
  rw [Text.dropPrefix?_append, other]

theorem toAsync_path {path : Text} (single : ∀ rest, path ≠ ("//" : Text) ++ rest) :
    toAsync (("sqlite:" : Text) ++ path) = ("sqlite+aiosqlite:///" : Text) ++ path := by
  have server : Text.dropPrefix? (("sqlite:" : Text) ++ path) "postgresql://" = none := rfl
  have file : Text.dropPrefix? (("sqlite:" : Text) ++ path) "sqlite://" = none := by
    refine Option.eq_none_iff_forall_ne_some.2 fun rest double => single rest ?_
    have doubled : ("sqlite:" : Text) ++ path = ("sqlite:" : Text) ++ (("//" : Text) ++ rest) :=
      (Text.dropPrefix?_eq_some_iff.1 double).trans rfl
    exact List.append_cancel_left doubled
  unfold toAsync
  rw [server, file, Text.dropPrefix?_append]

theorem toAsync_kept {url : Text} (server : ∀ rest, url ≠ ("postgresql://" : Text) ++ rest)
    (file : ∀ rest, url ≠ ("sqlite:" : Text) ++ rest) : toAsync url = url := by
  have none_of {start : Text} (other : ∀ rest, url ≠ start ++ rest) : url.dropPrefix? start = none :=
    Option.eq_none_iff_forall_ne_some.2 fun rest begins => other rest (Text.dropPrefix?_eq_some_iff.1 begins)
  have double : ∀ rest, url ≠ ("sqlite://" : Text) ++ rest := fun rest => file (("//" : Text) ++ rest)
  unfold toAsync
  rw [none_of server, none_of double, none_of file]

/-- The four ways in which a URL is converted. -/
theorem toAsync_cases (url : Text) :
    (∃ rest, url = ("postgresql://" : Text) ++ rest ∧ toAsync url = ("postgresql+asyncpg://" : Text) ++ rest) ∨
    (∃ rest, url = ("sqlite://" : Text) ++ rest ∧ toAsync url = ("sqlite+aiosqlite://" : Text) ++ rest) ∨
    (∃ path, url = ("sqlite:" : Text) ++ path ∧ toAsync url = ("sqlite+aiosqlite:///" : Text) ++ path) ∨
    toAsync url = url := by
  by_cases server : ∃ rest, url = ("postgresql://" : Text) ++ rest
  · obtain ⟨rest, rfl⟩ := server
    exact .inl ⟨rest, rfl, toAsync_server rest⟩
  by_cases file : ∃ rest, url = ("sqlite://" : Text) ++ rest
  · obtain ⟨rest, rfl⟩ := file
    exact .inr (.inl ⟨rest, rfl, toAsync_file rest⟩)
  by_cases path : ∃ path, url = ("sqlite:" : Text) ++ path
  · obtain ⟨path, rfl⟩ := path
    refine .inr (.inr (.inl ⟨path, rfl, toAsync_path fun rest double => file ⟨rest, ?_⟩⟩))
    rw [double]
    rfl
  · exact .inr (.inr (.inr (toAsync_kept (not_exists.1 server) (not_exists.1 path))))

theorem toAsync_toAsync (url : Text) : toAsync (toAsync url) = toAsync url := by
  rcases toAsync_cases url with ⟨rest, -, converted⟩ | ⟨rest, -, converted⟩ | ⟨path, -, converted⟩ | kept
  · rw [converted]
    rfl
  · rw [converted]
    rfl
  · rw [converted]
    rfl
  · rw [kept, kept]

end Conversion

section Parsing

variable {scheme other rest : Text} {url : DatabaseUrl}

/-- A scheme is read up to a colon. -/
theorem takeWhile_scheme (points : ∀ c ∈ scheme, isSchemePoint c) (rest : Text) :
    (scheme ++ (':' : CodePoint) :: rest).takeWhile isSchemePoint = scheme := by
  have stops : isSchemePoint ':' = false := by decide +kernel
  rw [List.takeWhile_append_of_pos points, List.takeWhile_cons_of_neg (by rw [stops]; exact Bool.false_ne_true),
    List.append_nil]

theorem parse_eq (nonempty : scheme ≠ []) (points : ∀ c ∈ scheme, isSchemePoint c) (rest : Text) :
    parse (scheme ++ (("://" : Text) ++ rest)) = parseParts scheme rest := by
  have read : (scheme ++ (("://" : Text) ++ rest)).takeWhile isSchemePoint = scheme := takeWhile_scheme points _
  unfold parse
  simp only [read, List.drop_left, Text.dropPrefix?_append, if_neg nonempty]

theorem scheme_of_parseParts (parsed : parseParts scheme rest = .ok url) : url.scheme = scheme := by
  unfold parseParts at parsed
  simp only at parsed
  split at parsed
  · cases parsed
    rfl
  · split at parsed
    · cases parsed
      rfl
    · cases parsed

theorem parseParts_scheme (other : Text) (parsed : parseParts scheme rest = .ok url) :
    parseParts other rest = .ok { url with scheme := other } := by
  unfold parseParts at parsed ⊢
  simp only at parsed ⊢
  split at parsed
  · cases parsed
    rfl
  · split at parsed
    · cases parsed
      rfl
    · cases parsed

/-- A URL is a scheme and what follows it. -/
theorem parse_eq_ok_iff {t : Text} :
    parse t = .ok url ↔ url.scheme ≠ [] ∧ (∀ c ∈ url.scheme, isSchemePoint c) ∧
      ∃ rest, t = url.scheme ++ (("://" : Text) ++ rest) ∧ parseParts url.scheme rest = .ok url := by
  constructor
  · intro parsed
    unfold parse at parsed
    simp only at parsed
    split at parsed
    · cases parsed
    · rename_i rest marked
      split at parsed
      · cases parsed
      · rename_i nonempty
        have same := scheme_of_parseParts parsed
        rw [← same] at nonempty parsed marked
        have points : ∀ c ∈ url.scheme, isSchemePoint c := by
          rw [same]
          exact fun c => List.mem_takeWhile_imp
        refine ⟨nonempty, points, rest, ?_, parsed⟩
        rw [← Text.dropPrefix?_eq_some_iff.1 marked, same]
        exact (List.prefix_iff_eq_append.1 (List.takeWhile_prefix isSchemePoint)).symm
  · rintro ⟨nonempty, points, rest, rfl, parsed⟩
    rw [parse_eq nonempty points, parsed]

theorem scheme_unique (points : ∀ c ∈ scheme, isSchemePoint c) (others : ∀ c ∈ other, isSchemePoint c) {u v : Text}
    (same : scheme ++ (':' : CodePoint) :: u = other ++ (':' : CodePoint) :: v) : scheme = other := by
  rw [← takeWhile_scheme points u, same, takeWhile_scheme others v]

/-- The scheme of a converted URL. -/
def asyncScheme (scheme : Text) : Text :=
  if scheme = ("postgresql" : Text) then "postgresql+asyncpg"
  else if scheme = ("sqlite" : Text) then "sqlite+aiosqlite"
  else scheme

/-- The two schemes without a driver get one, and all others are kept. -/
theorem asyncScheme_cases (scheme : Text) :
    (scheme = ("postgresql" : Text) ∧ asyncScheme scheme = ("postgresql+asyncpg" : Text)) ∨
    (scheme = ("sqlite" : Text) ∧ asyncScheme scheme = ("sqlite+aiosqlite" : Text)) ∨
    (scheme ≠ ("postgresql" : Text) ∧ scheme ≠ ("sqlite" : Text) ∧ asyncScheme scheme = scheme) := by
  unfold asyncScheme
  by_cases server : scheme = ("postgresql" : Text)
  · exact .inl ⟨server, if_pos server⟩
  by_cases file : scheme = ("sqlite" : Text)
  · exact .inr (.inl ⟨file, by rw [if_neg server, if_pos file]⟩)
  · exact .inr (.inr ⟨server, file, by rw [if_neg server, if_neg file]⟩)

theorem append_marks {opening : Text} (whole : scheme ++ ("://" : Text) = opening) (rest : Text) :
    scheme ++ (("://" : Text) ++ rest) = opening ++ rest := by
  rw [← whole, List.append_assoc]

theorem toAsync_parts (points : ∀ c ∈ scheme, isSchemePoint c) (rest : Text) :
    toAsync (scheme ++ (("://" : Text) ++ rest)) = asyncScheme scheme ++ (("://" : Text) ++ rest) := by
  rcases asyncScheme_cases scheme with ⟨rfl, converted⟩ | ⟨rfl, converted⟩ | ⟨server, file, kept⟩
  · have before : ("postgresql" : Text) ++ ("://" : Text) = "postgresql://" := by decide +kernel
    have after : ("postgresql+asyncpg" : Text) ++ ("://" : Text) = "postgresql+asyncpg://" := by decide +kernel
    rw [converted, append_marks before, toAsync_server, append_marks after]
  · have before : ("sqlite" : Text) ++ ("://" : Text) = "sqlite://" := by decide +kernel
    have after : ("sqlite+aiosqlite" : Text) ++ ("://" : Text) = "sqlite+aiosqlite://" := by decide +kernel
    rw [converted, append_marks before, toAsync_file, append_marks after]
  · have serverPoints : ∀ c ∈ ("postgresql" : Text), isSchemePoint c := by decide +kernel
    have filePoints : ∀ c ∈ ("sqlite" : Text), isSchemePoint c := by decide +kernel
    rw [kept]
    refine toAsync_kept (fun other same => ?_) fun other same => ?_
    · exact server (scheme_unique points serverPoints same)
    · exact file (scheme_unique points filePoints same)

/-- A converted scheme is one that the parser reads. -/
theorem asyncScheme_reads (nonempty : scheme ≠ []) (points : ∀ c ∈ scheme, isSchemePoint c) :
    asyncScheme scheme ≠ [] ∧ ∀ c ∈ asyncScheme scheme, isSchemePoint c := by
  rcases asyncScheme_cases scheme with ⟨-, converted⟩ | ⟨-, converted⟩ | ⟨-, -, kept⟩
  · rw [converted]
    decide +kernel
  · rw [converted]
    decide +kernel
  · rw [kept]
    exact ⟨nonempty, points⟩

/-- A converted URL is read as before, but for its scheme. -/
theorem parse_toAsync {t : Text} (parsed : parse t = .ok url) :
    parse (toAsync t) = .ok { url with scheme := asyncScheme url.scheme } := by
  obtain ⟨nonempty, points, rest, rfl, read⟩ := parse_eq_ok_iff.1 parsed
  obtain ⟨someScheme, schemePoints⟩ := asyncScheme_reads nonempty points
  rw [toAsync_parts points, parse_eq someScheme schemePoints]
  exact parseParts_scheme _ read

/-- A file by its path is read as a file for the asynchronous driver, whatever the path. -/
theorem exists_parse_path (path : Text) :
    ∃ url, parse (("sqlite+aiosqlite:///" : Text) ++ path) = .ok url ∧ url.scheme = ("sqlite+aiosqlite" : Text) := by
  have marks : ("sqlite+aiosqlite" : Text) ++ ("://" : Text) = "sqlite+aiosqlite://" := by decide +kernel
  have slash : ("sqlite+aiosqlite://" : Text) ++ ("/" : Text) = "sqlite+aiosqlite:///" := by decide +kernel
  rw [← slash, List.append_assoc, ← append_marks marks, parse_eq (by decide +kernel) (by decide +kernel)]
  exact ⟨_, rfl, rfl⟩

end Parsing

section Drivers

variable {url : DatabaseUrl} {system name : Text} {d : Driver}

/-- Whether the URL names an asynchronous driver, be it there to be used or not. -/
def namesAsync (url : DatabaseUrl) : Bool :=
  match url.scheme.splitOn '+' with
  | [system] => (known? system defaultName).any fun d => d.isAsync
  | [system, name] => (known? system name).any fun d => d.isAsync
  | _ => false

theorem backend_eq_scheme (plain : ('+' : CodePoint) ∉ url.scheme) : url.backend = url.scheme := by
  refine List.takeWhile_eq_self_iff.2 fun c member => ?_
  exact bne_iff_ne.2 fun plus => plain (plus ▸ member)

theorem backend_asyncScheme (url : DatabaseUrl) :
    backend { url with scheme := asyncScheme url.scheme } = url.backend := by
  unfold backend
  rcases asyncScheme_cases url.scheme with ⟨server, converted⟩ | ⟨file, converted⟩ | ⟨-, -, kept⟩
  · rw [converted, server]
    rfl
  · rw [converted, file]
    rfl
  · rw [kept]

theorem checkOptions_asyncScheme (url : DatabaseUrl) :
    checkOptions { url with scheme := asyncScheme url.scheme } = url.checkOptions := by
  unfold checkOptions
  rw [backend_asyncScheme]
  rfl

/-- No conversion leads to a synchronous driver, and none leads away from it. -/
theorem asyncScheme_sync_iff (scheme : Text) :
    asyncScheme scheme = ("sqlite" : Text) ∨ asyncScheme scheme = ("sqlite+pysqlite" : Text) ∨
        asyncScheme scheme = ("sqlite+base" : Text) ↔
      scheme = ("sqlite+pysqlite" : Text) ∨ scheme = ("sqlite+base" : Text) := by
  rcases asyncScheme_cases scheme with ⟨rfl, converted⟩ | ⟨rfl, converted⟩ | ⟨-, file, kept⟩
  · rw [converted]
    decide +kernel
  · rw [converted]
    decide +kernel
  · rw [kept]
    exact or_iff_right file

/-- Of a server or a file a converted URL names an asynchronous driver, unless it named another before. -/
theorem namesAsync_asyncScheme (system : url.backend = ("postgresql" : Text) ∨ url.backend = ("sqlite" : Text)) :
    namesAsync { url with scheme := asyncScheme url.scheme } ↔ ('+' : CodePoint) ∉ url.scheme ∨ url.namesAsync := by
  unfold namesAsync
  rcases asyncScheme_cases url.scheme with ⟨bare, converted⟩ | ⟨bare, converted⟩ | ⟨server, file, kept⟩
  · rw [converted, bare]
    exact iff_of_true rfl (.inl (by decide))
  · rw [converted, bare]
    exact iff_of_true rfl (.inl (by decide))
  · have named : ('+' : CodePoint) ∈ url.scheme := by
      by_contra plain
      rw [backend_eq_scheme plain] at system
      exact system.elim server file
    rw [kept]
    exact ⟨.inr, fun told => told.resolve_left (absurd named)⟩

/-- A known driver has the name that it is known by, or is the default one of its system. -/
theorem known?_cases (found : known? system name = some d) :
    ∃ entry ∈ drivers, entry.1 = system ∧ d ∈ entry.2 ∧ (name = defaultName ∨ d.name = name) := by
  unfold known? at found
  split at found
  · cases found
  · rename_i known ofSystem
    obtain ⟨entry, listed, rfl⟩ := Option.map_eq_some_iff.1 ofSystem
    have same : entry.1 = system := by simpa using List.find?_some listed
    refine ⟨entry, List.mem_of_find?_eq_some listed, same, ?_⟩
    split at found
    · exact ⟨List.mem_of_head? found, .inl ‹_›⟩
    · have named : d.name = name := by simpa using List.find?_some found
      exact ⟨List.mem_of_find?_eq_some found, .inr named⟩

/-- Of the drivers that are there to be used one is not asynchronous. -/
theorem findDriver_sync (found : findDriver system name = .ok d) (sync : d.isAsync = false) :
    system = ("sqlite" : Text) ∧ (name = defaultName ∨ name = ("pysqlite" : Text)) := by
  have only : ∀ entry ∈ drivers, ∀ d ∈ entry.2, d.isInstalled → d.isAsync = false →
      entry.1 = ("sqlite" : Text) ∧ d.name = ("pysqlite" : Text) := by decide
  unfold findDriver at found
  split at found
  · cases found
  · rename_i known
    split at found
    · rename_i installed
      cases found
      obtain ⟨entry, listed, rfl, among, named⟩ := known?_cases known
      obtain ⟨file, same⟩ := only entry listed d among installed sync
      refine ⟨file, named.imp_right fun other => ?_⟩
      rw [← other, same]
    · cases found

/-- The schemes whose driver is there to be used, but not asynchronous. -/
theorem driver_sync_iff : (∃ d, url.driver = .ok d ∧ d.isAsync = false) ↔
    url.scheme = ("sqlite" : Text) ∨ url.scheme = ("sqlite+pysqlite" : Text) ∨ url.scheme = ("sqlite+base" : Text) := by
  constructor
  · rintro ⟨d, found, sync⟩
    have joined : [('+' : CodePoint)].intercalate (url.scheme.splitOn '+') = url.scheme := by
      rw [Text.splitOn_eq, List.intercalate_splitOn]
    unfold driver at found
    split at found
    · rename_i system split
      obtain ⟨rfl, -⟩ := findDriver_sync found sync
      rw [split] at joined
      exact .inl joined.symm
    · rename_i system name split
      obtain ⟨rfl, rfl | rfl⟩ := findDriver_sync found sync
      · rw [split] at joined
        exact .inr (.inr joined.symm)
      · rw [split] at joined
        exact .inr (.inl joined.symm)
    · cases found
  · intro scheme
    refine ⟨{ name := "pysqlite", isInstalled := true }, ?_, rfl⟩
    unfold driver
    rcases scheme with same | same | same
    all_goals
      rw [same]
      rfl

end Drivers

section Engines

variable {α β : Type} {url : DatabaseUrl}

/-- Whatever goes wrong, it is not that the driver is synchronous. -/
def Apart (x : Except UrlError α) : Prop := x ≠ .error .notAsync

theorem Apart.ok (a : α) : Apart (.ok a : Except UrlError α) := nofun

theorem Apart.bind_iff {x : Except UrlError α} {next : α → Except UrlError β} (first : Apart x) :
    x >>= next = .error .notAsync ↔ ∃ a, x = .ok a ∧ next a = .error .notAsync := by
  cases x with
  | ok a => exact ⟨fun failed => ⟨a, rfl, failed⟩, fun ⟨_, same, failed⟩ => Except.ok.inj same ▸ failed⟩
  | error e =>
      refine ⟨fun same => absurd (congrArg Except.error (Except.error.inj same)) first, ?_⟩
      rintro ⟨_, ⟨⟩, -⟩

theorem Apart.bind {x : Except UrlError α} {next : α → Except UrlError β} (first : Apart x)
    (rest : ∀ a, Apart (next a)) : Apart (x >>= next) := fun failed =>
  let ⟨a, _, later⟩ := first.bind_iff.1 failed
  rest a later

section Checks

variable {P : Prop} [Decidable P] {e : UrlError} {next : Unit → Except UrlError α}

/-- A check fails in its own way. -/
theorem check_iff (other : e ≠ .notAsync) :
    (if P then throw e >>= next else next ()) = .error .notAsync ↔ ¬P ∧ next () = .error .notAsync := by
  split
  · rename_i failed
    exact ⟨fun same => absurd (Except.error.inj same) other, fun passed => absurd failed passed.1⟩
  · rename_i passed
    exact (and_iff_right passed).symm

theorem Apart.check (other : e ≠ .notAsync) (rest : Apart (next ())) :
    Apart (if P then throw e >>= next else next ()) := fun failed => rest ((check_iff other).1 failed).2

end Checks

theorem Apart.forM {items : List α} {act : α → Except UrlError Unit} (each : ∀ a, Apart (act a)) :
    Apart (items.forM act) := by
  induction items with
  | nil => exact .ok ()
  | cons item items ih => exact (each item).bind fun _ => ih

theorem apart_checkOption (url : DatabaseUrl) (name : Text) (kind : OptionKind) :
    Apart (url.checkOption name kind) := by
  unfold checkOption
  split
  · exact .ok ()
  · split
    · exact .ok ()
    · nofun
  · nofun
  · nofun
  · exact .ok ()
  · exact .ok ()

theorem apart_driver (url : DatabaseUrl) : Apart url.driver := by
  have found (system name : Text) : Apart (findDriver system name) := by
    unfold findDriver
    split
    · split <;> nofun
    · split
      · exact .ok _
      · nofun
  unfold driver
  split
  · exact found _ _
  · exact found _ _
  · nofun

theorem apart_checkFile (url : DatabaseUrl) : Apart url.checkFile := by
  have refused : (if url.isShowable then UrlError.serverOfFile else .unshowable) ≠ .notAsync := by
    split <;> nofun
  unfold checkFile
  refine .check refused (.bind (.forM fun option => apart_checkOption url option.1 option.2) fun _ => ?_)
  split
  · nofun
  · exact .ok ()

theorem apart_checkServer (url : DatabaseUrl) : Apart url.checkServer := by
  have mismatched : UrlError.mismatchedHosts ≠ .notAsync := nofun
  have paired : Apart url.pairedHosts := by
    unfold pairedHosts
    split
    · exact .ok _
    · exact .ok _
    · dsimp only
      split
      · nofun
      · exact .ok _
  have hosts : Apart url.hostPorts := by
    unfold hostPorts
    refine paired.bind fun ⟨hosts, ports⟩ => ?_
    exact .check mismatched (.check mismatched (.check mismatched (.ok _)))
  unfold checkServer
  refine hosts.bind fun ⟨hosts, ports⟩ => ?_
  exact .check mismatched (apart_checkOption url _ _)

theorem apart_checkOptions (url : DatabaseUrl) : Apart url.checkOptions := by
  unfold checkOptions
  split
  · exact apart_checkFile url
  · exact apart_checkServer url

/-- When an engine is refused for its driver: nothing else is wrong, and the driver is there, but not asynchronous. -/
theorem ofUrl_eq_notAsync_iff {t : Text} (parsed : parse t = .ok url) (pool : PoolSize) :
    Engine.ofUrl t pool = .error .notAsync ↔
      (∃ d, url.driver = .ok d ∧ d.isAsync = false) ∧ url.option "plugin" = [] ∧ url.checkOptions = .ok () := by
  have unknown : UrlError.unknownPlugin ≠ .notAsync := nofun
  have refused (d : Driver) (engine : Engine) :
      (if !d.isAsync then throw .notAsync >>= fun _ : Unit => pure engine else pure engine) =
        (.error .notAsync : Except UrlError Engine) ↔ d.isAsync = false := by
    cases d.isAsync with
    | false => exact iff_of_true rfl rfl
    | true => exact iff_of_false nofun nofun
  unfold Engine.ofUrl
  rw [parsed, (Apart.ok url).bind_iff]
  simp only [Except.ok.injEq, exists_eq_left', check_iff unknown, not_not, (apart_driver url).bind_iff,
    (apart_checkOptions url).bind_iff, refused]
  constructor
  · rintro ⟨plugin, d, found, _, checked, sync⟩
    exact ⟨⟨d, found, sync⟩, plugin, checked⟩
  · rintro ⟨⟨d, found, sync⟩, plugin, checked⟩
    exact ⟨plugin, d, found, (), checked, sync⟩

end Engines

end DatabaseUrl

namespace Settings

open Payload DatabaseUrl

variable {environment : List (Text × Text)} {overrides values : List (Text × Json)} {settings : Settings}

theorem databaseUrl_of_ofValues (accepted : ofValues values = .accepted settings) :
    field values "database_url" ({} : Settings).databaseUrl urlOf = .accepted settings.databaseUrl := by
  unfold ofValues at accepted
  simp only [Checked.seq_eq_accepted, Checked.map_eq_accepted] at accepted
  -- the URL is the first of nine fields, so its reading is the innermost part
  obtain ⟨_, _, ⟨_, _, ⟨_, _, ⟨_, _, ⟨_, _, ⟨_, _, ⟨_, _, ⟨_, _, ⟨url, read, rfl⟩, -, rfl⟩, -, rfl⟩, -, rfl⟩, -, rfl⟩, -,
    rfl⟩, -, rfl⟩, -, rfl⟩, -, rfl⟩ := accepted
  exact read

theorem ofValues_of_load (loaded : load environment overrides = .ok settings) :
    ∃ lookup fromEnvironment, Lookup.ofOverrides? overrides = some lookup ∧
      ofValues (fromEnvironment ++ known lookup overrides) = .accepted settings := by
  unfold load at loaded
  split at loaded
  · rename_i lookup found
    cases read : names.mapM (ofVariable? lookup environment) with
    | error e =>
        rw [read] at loaded
        cases loaded
    | ok fromEnvironment =>
        rw [read] at loaded
        simp only [bind, Except.bind] at loaded
        split at loaded
        · rename_i accepted
          cases loaded
          simp only [Checked.seq_eq_accepted, Checked.map_eq_accepted] at accepted
          obtain ⟨_, _, ⟨given, accepted, rfl⟩, -, rfl⟩ := accepted
          exact ⟨lookup, fromEnvironment.filterMap id, found, accepted⟩
        · cases loaded
  · cases loaded

/-- Settings hold a URL that is converted. -/
theorem toAsync_databaseUrl (loaded : load environment overrides = .ok settings) :
    toAsync settings.databaseUrl = settings.databaseUrl := by
  obtain ⟨lookup, fromEnvironment, -, accepted⟩ := ofValues_of_load loaded
  have read := databaseUrl_of_ofValues accepted
  unfold field at read
  split at read
  · rw [← Checked.accepted.inj read]
    rfl
  · obtain ⟨given, -, same⟩ := Checked.map_eq_accepted.1 read
    rw [same, toAsync_toAsync]

/-- A URL that is given as an override is converted, whatever the environment says. -/
theorem databaseUrl_of_override {t : Text} (loaded : load environment [("database_url", .string t)] = .ok settings) :
    settings.databaseUrl = toAsync t := by
  obtain ⟨lookup, fromEnvironment, found, accepted⟩ := ofValues_of_load loaded
  have plain : Lookup.ofOverrides? [("database_url", .string t)] = some {} := rfl
  have last : lastValue? "database_url" (known {} [(("database_url" : Text), Json.string t)]) = some (.string t) := rfl
  rw [plain, Option.some.injEq] at found
  subst found
  have read := databaseUrl_of_ofValues accepted
  rw [field, lastValue?_append, last] at read
  exact (Checked.accepted.inj read).symm

/-- Every URL is accepted as an override and as a variable of the environment, and is converted either way. -/
theorem load_databaseUrl (t : Text) :
    load [] [("database_url", .string t)] = .ok { databaseUrl := toAsync t } ∧
      load [("DATABASE_URL", t)] [] = .ok { databaseUrl := toAsync t } := ⟨rfl, rfl⟩

/-- Conversion is idempotent and keeps all that follows the scheme; settings hold converted URLs, and of an override its
converted form. A converted URL is read as before, but for its scheme, and names a driver of the same system. For a
server or a file that driver is asynchronous just where the URL named none, or an asynchronous one; and an engine is
refused for its driver just where the URL named the synchronous one that is there and nothing else is wrong with it. A
file that is given by its path always gets an asynchronous driver. -/
theorem databaseUrl_converted (t : Text) :
    toAsync (toAsync t) = toAsync t ∧
    (∀ rest, t = ("postgresql://" : Text) ++ rest → toAsync t = ("postgresql+asyncpg://" : Text) ++ rest) ∧
    (∀ rest, t = ("sqlite://" : Text) ++ rest → toAsync t = ("sqlite+aiosqlite://" : Text) ++ rest) ∧
    (∀ path, t = ("sqlite:" : Text) ++ path → (∀ rest, path ≠ ("//" : Text) ++ rest) →
      toAsync t = ("sqlite+aiosqlite:///" : Text) ++ path ∧
        ∃ url, parse (toAsync t) = .ok url ∧ url.backend = ("sqlite" : Text) ∧ url.namesAsync) ∧
    (∀ environment overrides settings, load environment overrides = .ok settings → settings.databaseUrl = t →
      toAsync t = t) ∧
    (∀ environment settings, load environment [("database_url", .string t)] = .ok settings →
      settings.databaseUrl = toAsync t) ∧
    ∀ url, parse t = .ok url → url.backend = ("postgresql" : Text) ∨ url.backend = ("sqlite" : Text) →
      ∃ converted, parse (toAsync t) = .ok converted ∧ converted = { url with scheme := converted.scheme } ∧
        converted.backend = url.backend ∧
        (converted.namesAsync ↔ ('+' : CodePoint) ∉ url.scheme ∨ url.namesAsync) ∧
        ∀ pool, Engine.ofUrl (toAsync t) pool = .error .notAsync ↔
          (url.scheme = ("sqlite+pysqlite" : Text) ∨ url.scheme = ("sqlite+base" : Text)) ∧
            url.option "plugin" = [] ∧ url.checkOptions = .ok () := by
  refine ⟨toAsync_toAsync t, ?server, ?file, ?path, ?held, fun _ _ => databaseUrl_of_override, ?parsed⟩
  case server =>
    rintro rest rfl
    exact toAsync_server rest
  case file =>
    rintro rest rfl
    exact toAsync_file rest
  case path =>
    rintro path rfl single
    obtain ⟨url, parsed, scheme⟩ := exists_parse_path path
    rw [toAsync_path single]
    refine ⟨rfl, url, parsed, ?_, ?_⟩
    · rw [backend, scheme]
      rfl
    · rw [namesAsync, scheme]
      rfl
  case held =>
    rintro environment overrides settings loaded rfl
    exact toAsync_databaseUrl loaded
  case parsed =>
    intro url parsed system
    refine ⟨_, parse_toAsync parsed, rfl, backend_asyncScheme url, namesAsync_asyncScheme system, fun pool => ?_⟩
    rw [ofUrl_eq_notAsync_iff (parse_toAsync parsed), driver_sync_iff, asyncScheme_sync_iff, checkOptions_asyncScheme]
    rfl

/-- A URL that names the synchronous driver of a file, and nothing wrong with it. -/
def synchronous : Text := "sqlite+pysqlite:///x.db"

/-- It is kept as it is, and no engine can be made of it. -/
theorem databaseUrl_converted_synchronous :
    load [] [("database_url", .string synchronous)] = .ok { databaseUrl := synchronous } ∧
      ∃ url, parse synchronous = .ok url ∧ url.backend = ("sqlite" : Text) ∧ ¬url.namesAsync ∧
        Engine.ofUrl synchronous ⟨20, 10⟩ = .error .notAsync := by
  have loaded : load [] [("database_url", .string synchronous)] = .ok { databaseUrl := synchronous } :=
    (load_databaseUrl synchronous).1
  have parsed : parse synchronous = .ok ⟨"sqlite+pysqlite", none, none, none, none, some "x.db", []⟩ := by
    decide +kernel
  obtain ⟨-, -, -, -, -, converts, told⟩ := databaseUrl_converted synchronous
  have kept : synchronous = toAsync synchronous := converts _ _ loaded
  obtain ⟨url, same, -, system, names, refused⟩ := told _ parsed (.inr (by decide))
  rw [← kept] at same refused
  refine ⟨loaded, url, same, system, ?_, (refused _).2 ⟨.inl rfl, rfl, by decide⟩⟩
  rw [names]
  decide +kernel

end Settings

end AnchorRegistry
