import AnchorRegistry.Http.Route
import AnchorRegistry.Proofs.Identifier

/-! Dispatch. A path that begins with a slash is its segments, and no segment holds a slash. `Addresses` is the
table of the routes read as a relation: which endpoint a method and the segments of a path address. Every endpoint
is found just where it is addressed, with one exception, which the order of the routes makes: the list of assets
of `account` is the look-up of the account `assets`. A text that reads as an identifier is one segment and not the
word `account`, so no stored anchor is out of reach. -/

namespace AnchorRegistry.Http

/-- The path with these segments. -/
def pathOf (segments : List Text) : Text := segments.flatMap fun segment => ('/' : CodePoint) :: segment

theorem not_mem_of_mem_splitOn {c : CodePoint} {t segment : Text} (member : segment ∈ List.splitOn c t) :
    c ∉ segment := by
  induction t generalizing segment with
  | nil =>
      rw [List.splitOn_nil, List.mem_singleton] at member
      rw [member]
      exact List.not_mem_nil
  | cons d rest ih =>
      rw [List.splitOn_cons_eq_if_modifyHead] at member
      obtain ⟨first, others, split⟩ := List.exists_cons_of_ne_nil (List.splitOn_ne_nil c rest)
      rw [split] at member ih
      by_cases same : d = c
      · rw [if_pos (beq_iff_eq.2 same)] at member
        rcases List.mem_cons.1 member with rfl | later
        · exact List.not_mem_nil
        · exact ih later
      · rw [if_neg (by simpa using same), List.modifyHead_cons] at member
        rcases List.mem_cons.1 member with rfl | later
        · rw [List.mem_cons, not_or]
          exact ⟨fun equal => same equal.symm, ih List.mem_cons_self⟩
        · exact ih (List.mem_cons_of_mem _ later)

theorem pathOf_eq_intercalate {segments : List Text} (nonempty : segments ≠ []) :
    pathOf segments = ('/' : CodePoint) :: [('/' : CodePoint)].intercalate segments := by
  induction segments with
  | nil => exact absurd rfl nonempty
  | cons segment rest ih =>
      cases rest with
      | nil => simp [pathOf]
      | cons next rest =>
          have onward : pathOf (segment :: next :: rest) = ('/' : CodePoint) :: segment ++ pathOf (next :: rest) := rfl
          rw [onward, ih (List.cons_ne_nil _ _), List.intercalate_cons_cons, List.cons_append, List.append_assoc]
          rfl

/-- The segments of a path are the slash-free texts of which it is made. -/
theorem segments?_eq_some {path : Text} {segments : List Text} :
    segments? path = some segments ↔
      segments ≠ [] ∧ (∀ segment ∈ segments, ('/' : CodePoint) ∉ segment) ∧ path = pathOf segments := by
  constructor
  · intro read
    unfold segments? at read
    split at read
    · rename_i c rest
      split at read
      · rename_i slash
        rw [Option.some.injEq] at read
        subst read
        refine ⟨List.splitOn_ne_nil _ _, fun segment => not_mem_of_mem_splitOn, ?_⟩
        rw [pathOf_eq_intercalate (List.splitOn_ne_nil _ _), List.intercalate_splitOn, slash]
      · cases read
    · cases read
  · rintro ⟨nonempty, free, rfl⟩
    rw [pathOf_eq_intercalate nonempty]
    unfold segments?
    simp only [if_true]
    rw [List.splitOn_intercalate _ free nonempty]

/-- A segment spells a literal at the end of a path, where a line break after it does not count. -/
def Spells (segment literal : Text) : Prop := segment = literal ∨ segment = literal ++ ("\n" : Text)

/-- Which endpoint a method and the segments of a path address. -/
inductive Addresses : Endpoint → Text → List Text → Prop
  | health {last : Text} (spells : Spells last "health") : Addresses .health "GET" [last]
  | ready {last : Text} (spells : Spells last "ready") : Addresses .ready "GET" ["health", last]
  | listAnchors {last : Text} (spells : Spells last "anchors") : Addresses .listAnchors "GET" [last]
  | createAnchor {last : Text} (spells : Spells last "anchors") : Addresses .createAnchor "POST" [last]
  | anchorByAccount {account : Text} (nonempty : account ≠ []) :
    Addresses (.anchorByAccount account) "GET" ["anchors", "account", account]
  | anchorById {id : Text} (nonempty : id ≠ []) : Addresses (.anchorById id) "GET" ["anchors", id]
  | updateMetrics {id last : Text} (nonempty : id ≠ []) (spells : Spells last "metrics") :
    Addresses (.updateMetrics id) "PUT" ["anchors", id, last]
  | listAssets {id last : Text} (nonempty : id ≠ []) (spells : Spells last "assets") :
    Addresses (.listAssets id) "GET" ["anchors", id, last]
  | createAsset {id last : Text} (nonempty : id ≠ []) (spells : Spells last "assets") :
    Addresses (.createAsset id) "POST" ["anchors", id, last]

theorem matchSegments?_last {literal parameter : Text} {segments : List Text} :
    matchSegments? [.literal literal] segments = some parameter ↔
      parameter = [] ∧ ∃ last, segments = [last] ∧ Spells last literal := by
  unfold Spells
  match segments with
  | [] => simp [matchSegments?]
  | [last] => simp [matchSegments?, eq_comm, and_comm]
  | _ :: _ :: _ => simp [matchSegments?]

theorem matchSegments?_literal {literal parameter : Text} {next : Segment} {pattern : List Segment}
    {segments : List Text} : matchSegments? (.literal literal :: next :: pattern) segments = some parameter ↔
      ∃ rest, segments = literal :: rest ∧ matchSegments? (next :: pattern) rest = some parameter := by
  cases segments with
  | nil => simp [matchSegments?]
  | cons segment rest => simp [matchSegments?]

theorem matchSegments?_parameter {parameter : Text} {pattern : List Segment} {segments : List Text} :
    matchSegments? (.parameter :: pattern) segments = some parameter ↔
      parameter ≠ [] ∧ ∃ rest, segments = parameter :: rest ∧ (matchSegments? pattern rest).isSome := by
  cases segments with
  | nil => simp [matchSegments?]
  | cons segment rest =>
      have unfolded : matchSegments? (.parameter :: pattern) (segment :: rest) =
          if segment = [] then none else (matchSegments? pattern rest).map fun _ => segment := by
        cases pattern <;> rfl
      rw [unfolded]
      constructor
      · intro fits
        split at fits
        · cases fits
        · rename_i nonempty
          obtain ⟨_, onward, rfl⟩ := Option.map_eq_some_iff.1 fits
          exact ⟨nonempty, rest, rfl, Option.isSome_iff_exists.2 ⟨_, onward⟩⟩
      · rintro ⟨nonempty, _, same, onward⟩
        obtain ⟨rfl, rfl⟩ := List.cons.inj same
        obtain ⟨_, onward⟩ := Option.isSome_iff_exists.1 onward
        rw [if_neg nonempty, onward]
        rfl

theorem matchSegments?_nil {segments : List Text} : (matchSegments? [] segments).isSome ↔ segments = [] := by
  cases segments <;> simp [matchSegments?]

theorem dispatch_eq_found {method path : Text} {endpoint : Endpoint} :
    dispatch method path = .found endpoint ↔
      (fitting path).find? (fun fit => fit.1 = method) = some (method, endpoint) := by
  unfold dispatch
  cases first : (fitting path).find? fun fit => fit.1 = method with
  | none =>
      simp only [reduceCtorEq, iff_false]
      split
      · nofun
      · split <;> nofun
  | some fit =>
      have allowed : fit.1 = method := by simpa using List.find?_some first
      obtain ⟨named, reached⟩ := fit
      subst allowed
      simp

theorem dispatch_of_addresses {endpoint : Endpoint} {method path : Text} {segments : List Text}
    (read : segments? path = some segments) (addresses : Addresses endpoint method segments)
    (unshadowed : endpoint ≠ .listAssets "account") : dispatch method path = .found endpoint := by
  rw [dispatch_eq_found]
  unfold fitting Route.fit?
  simp only [read, Option.bind_some]
  cases addresses with
  | anchorByAccount nonempty => simp +decide [routes, matchSegments?, nonempty]
  | anchorById nonempty => simp +decide [routes, matchSegments?, nonempty]
  | @updateMetrics id last nonempty spells =>
      by_cases shadowed : id = "account" <;>
        rcases spells with rfl | rfl <;> simp +decide [routes, matchSegments?, nonempty, shadowed]
  | @listAssets id last nonempty spells =>
      have unshadowed : id ≠ "account" := fun same => unshadowed (congrArg Endpoint.listAssets same)
      rcases spells with rfl | rfl <;> simp +decide [routes, matchSegments?, nonempty, unshadowed]
  | @createAsset id last nonempty spells =>
      by_cases shadowed : id = "account" <;>
        rcases spells with rfl | rfl <;> simp +decide [routes, matchSegments?, nonempty, shadowed]
  | _ spells => rcases spells with rfl | rfl <;> rfl

/-- A route that fits the segments of a path addresses its endpoint. -/
theorem addresses_of_fit {route : Route} (listed : route ∈ routes) {segments : List Text} {parameter : Text}
    (fits : matchSegments? route.path segments = some parameter) :
    Addresses (route.endpoint parameter) route.method segments := by
  have ending {literal : Text} {rest : List Text}
      (fits : (matchSegments? [.literal literal] rest).isSome) : ∃ last, rest = [last] ∧ Spells last literal := by
    obtain ⟨_, fits⟩ := Option.isSome_iff_exists.1 fits
    exact (matchSegments?_last.1 fits).2
  simp only [routes, List.mem_cons, List.not_mem_nil, or_false] at listed
  rcases listed with rfl | rfl | rfl | rfl | rfl | rfl | rfl | rfl | rfl
  · obtain ⟨-, last, rfl, spells⟩ := matchSegments?_last.1 fits
    exact .health spells
  · obtain ⟨_, rfl, onward⟩ := matchSegments?_literal.1 fits
    obtain ⟨-, last, rfl, spells⟩ := matchSegments?_last.1 onward
    exact .ready spells
  · obtain ⟨-, last, rfl, spells⟩ := matchSegments?_last.1 fits
    exact .listAnchors spells
  · obtain ⟨-, last, rfl, spells⟩ := matchSegments?_last.1 fits
    exact .createAnchor spells
  · obtain ⟨_, rfl, onward⟩ := matchSegments?_literal.1 fits
    obtain ⟨_, rfl, further⟩ := matchSegments?_literal.1 onward
    obtain ⟨nonempty, _, rfl, done⟩ := matchSegments?_parameter.1 further
    rw [matchSegments?_nil.1 done]
    exact .anchorByAccount nonempty
  · obtain ⟨_, rfl, onward⟩ := matchSegments?_literal.1 fits
    obtain ⟨nonempty, _, rfl, done⟩ := matchSegments?_parameter.1 onward
    rw [matchSegments?_nil.1 done]
    exact .anchorById nonempty
  all_goals
    obtain ⟨_, rfl, onward⟩ := matchSegments?_literal.1 fits
    obtain ⟨nonempty, _, rfl, further⟩ := matchSegments?_parameter.1 onward
    obtain ⟨last, rfl, spells⟩ := ending further
  · exact .updateMetrics nonempty spells
  · exact .listAssets nonempty spells
  · exact .createAsset nonempty spells

theorem Addresses.ne_nil {endpoint : Endpoint} {method : Text} {segments : List Text}
    (addresses : Addresses endpoint method segments) : segments ≠ [] := by
  cases addresses <;> exact List.cons_ne_nil _ _

/-- Dispatch goes by the order of the routes: an endpoint is found under just those methods and paths that address
it, but the list of assets of `account` is shadowed by the look-up of the account `assets`. -/
theorem dispatch_eq_found_iff {endpoint : Endpoint} {method path : Text} :
    dispatch method path = .found endpoint ↔ endpoint ≠ .listAssets "account" ∧
      ∃ segments, path = pathOf segments ∧ (∀ segment ∈ segments, ('/' : CodePoint) ∉ segment) ∧
        Addresses endpoint method segments := by
  constructor
  · intro found
    have first := dispatch_eq_found.1 found
    obtain ⟨route, listed, fits⟩ := List.mem_filterMap.1 (List.mem_of_find?_eq_some first)
    obtain ⟨parameter, fits, same⟩ := Option.map_eq_some_iff.1 fits
    obtain ⟨segments, read, fits⟩ := Option.bind_eq_some_iff.1 fits
    have addresses := addresses_of_fit listed fits
    rw [Prod.mk.injEq] at same
    rw [same.1, same.2] at addresses
    obtain ⟨-, free, spelled⟩ := segments?_eq_some.1 read
    refine ⟨?_, segments, spelled, free, addresses⟩
    rintro rfl
    cases addresses with
    | @listAssets _ last _ spells =>
        have nonempty : last ≠ [] := by
          rcases spells with rfl | rfl <;> decide
        have other := dispatch_of_addresses read (.anchorByAccount nonempty) nofun
        rw [found] at other
        cases other
  · rintro ⟨unshadowed, segments, spelled, free, addresses⟩
    exact dispatch_of_addresses (segments?_eq_some.2 ⟨addresses.ne_nil, free, spelled⟩) addresses unshadowed

/-- Every account is looked up under a path of its own, whatever it is called. -/
theorem dispatch_anchorByAccount {account : Text} (nonempty : account ≠ []) (free : ('/' : CodePoint) ∉ account) :
    dispatch "GET" (pathOf ["anchors", "account", account]) = .found (.anchorByAccount account) := by
  refine dispatch_eq_found_iff.2 ⟨nofun, _, rfl, ?_, .anchorByAccount nonempty⟩
  simp +decide [free]

/-- A text that reads as an identifier is one segment, so the endpoints of that anchor are found. -/
theorem dispatch_of_parse? {raw : Text} {id : EntityId} (read : EntityId.parse? raw = some id) :
    dispatch "GET" (pathOf ["anchors", raw]) = .found (.anchorById raw) ∧
      dispatch "PUT" (pathOf ["anchors", raw, "metrics"]) = .found (.updateMetrics raw) ∧
      dispatch "GET" (pathOf ["anchors", raw, "assets"]) = .found (.listAssets raw) ∧
      dispatch "POST" (pathOf ["anchors", raw, "assets"]) = .found (.createAsset raw) := by
  have nonempty : raw ≠ [] := by
    rintro rfl
    cases read
  have free : ('/' : CodePoint) ∉ raw := EntityId.not_mem_of_parse? read CodePoint.isForeign_slash
  have unshadowed : Endpoint.listAssets raw ≠ .listAssets "account" := by
    intro same
    rw [Endpoint.listAssets.inj same] at read
    cases read
  refine ⟨?_, ?_, ?_, ?_⟩
  · exact dispatch_eq_found_iff.2 ⟨nofun, _, rfl, by simp +decide [free], .anchorById nonempty⟩
  · exact dispatch_eq_found_iff.2 ⟨nofun, _, rfl, by simp +decide [free], .updateMetrics nonempty (.inl rfl)⟩
  · exact dispatch_eq_found_iff.2 ⟨unshadowed, _, rfl, by simp +decide [free], .listAssets nonempty (.inl rfl)⟩
  · exact dispatch_eq_found_iff.2 ⟨nofun, _, rfl, by simp +decide [free], .createAsset nonempty (.inl rfl)⟩

end AnchorRegistry.Http
