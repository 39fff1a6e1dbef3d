import AnchorRegistry.Migration.Config
import AnchorRegistry.Proofs.Effective
import AnchorRegistry.Proofs.Spelling

/-! Configurations read back. An escaped text is written with every percent sign doubled, so the pairs that are removed
before it may be written are all its percent signs, and what is read back is the text itself: the scanner takes the
signs of a pair together and never sees a reference. So the database that a configuration is made for is the one that
it names, whatever the URL is made of and whatever else the configuration holds. -/

namespace AnchorRegistry.Migration

namespace Interpolation

theorem escape_cons (c : CodePoint) (t : Text) :
    escape (c :: t) = (if c = percent then [percent, percent] else [c]) ++ escape t := rfl

theorem ofString_pair : Text.ofString "%%" = [percent, percent] := by decide

/-- Without its pairs an escaped text is left with everything but percent signs. -/
theorem removeAll_escape (t : Text) : Text.removeAll "%%" (escape t) = t.filter fun c => c != percent := by
  rw [ofString_pair]
  induction t with
  | nil => rfl
  | cons c t ih =>
      rw [escape_cons, List.filter_cons]
      by_cases sign : c = percent
      · rw [if_pos sign, if_neg (by simp [sign]), ← ih]
        exact Text.removeAll_self_append (escape t)
      · rw [if_neg sign, if_pos (by simp [sign]), ← ih]
        refine Text.removeAll_cons ?_
        simp [List.isPrefixOf, Ne.symm sign]

theorem dropReferences_eq_self {t : Text} (absent : percent ∉ t) : dropReferences 0 t = t := by
  induction t with
  | nil => rfl
  | cons c t ih =>
      rw [List.mem_cons, not_or] at absent
      rw [dropReferences, if_neg (Ne.symm absent.1), ih absent.2]

/-- An escaped text may always be written. -/
theorem isValid_escape (t : Text) : isValid (escape t) = true := by
  have absent : percent ∉ t.filter fun c => c != percent := by simp
  rw [isValid, removeAll_escape, dropReferences_eq_self absent]
  simp

/-- Reading goes through an escaped text to what follows it, and gives the text. -/
theorem expandWith_escape_append (resolve : Text → Except ExpandError Text) (t rest : Text) :
    expandWith resolve 0 (escape t ++ rest) = (expandWith resolve 0 rest).map (t ++ ·) := by
  have step (c : CodePoint) (t : Text) (read : Except ExpandError Text) :
      (read.map (t ++ ·)).map (c :: ·) = read.map (c :: t ++ ·) := by
    cases read <;> rfl
  induction t with
  | nil =>
      change expandWith resolve 0 rest = _
      cases expandWith resolve 0 rest <;> rfl
  | cons c t ih =>
      rw [escape_cons, ← step, ← ih]
      by_cases sign : c = percent
      · rw [if_pos sign, sign]
        rfl
      · rw [if_neg sign]
        exact if_neg sign

theorem expandWith_escape (resolve : Text → Except ExpandError Text) (t : Text) :
    expandWith resolve 0 (escape t) = .ok t := by
  have read := expandWith_escape_append resolve t []
  rw [List.append_nil] at read
  rw [read, expandWith]
  exact congrArg Except.ok (List.append_nil t)

theorem expand_escape (options : List (Text × Text)) (t : Text) : expand options maxDepth (escape t) = .ok t := by
  rw [maxDepth, expand]
  exact expandWith_escape _ t

end Interpolation

namespace Config

open Interpolation

/-- What was written last under a name reads back, if it was escaped. -/
theorem get_escaped (options : List (Text × Text)) (name t : Text) :
    (⟨options ++ [(name, escape t)]⟩ : Config).get name = .ok t := by
  have found : lastValue? name (options ++ [(name, escape t)]) = some (escape t) := by
    rw [lastValue?_append, lastValue?_cons, if_pos rfl]
    rfl
  rw [get, found]
  exact expand_escape _ t

theorem ofParts?_eq (folder url : Text) : ofParts? folder url =
    if isValid folder then some ⟨[(scriptsOption, folder), (urlOption, escape url)]⟩ else none := by
  unfold ofParts? set?
  rw [isValid_escape]
  cases isValid folder <;> rfl

theorem get_ofParts (folder url : Text) :
    (⟨[(scriptsOption, folder), (urlOption, escape url)]⟩ : Config).get urlOption = .ok url :=
  get_escaped [(scriptsOption, folder)] urlOption url

/-- A configuration for any URL is made wherever the scripts are in a folder that may be written, which the packaged
folder is, and the URL reads back as it was. Migrations are run against that database, or against the one of the
settings where no URL was given; so for the settings' own database they are run against just that. -/
theorem url_reads_back (folder url : Text) (settings : Settings) :
    (ofParts? folder url).map (fun config => config.get urlOption) =
      (if isValid folder then some (.ok url) else none) ∧
    (ofUrl? url).map (fun config => config.get urlOption) = some (.ok url) ∧
    (ofUrl? url).map (fun config => config.database settings) =
      some (.ok (if url = [] then settings.databaseUrl else url)) ∧
    (ofUrl? settings.databaseUrl).map (fun config => config.database settings) = some (.ok settings.databaseUrl) := by
  have packaged : isValid scripts = true := by decide
  have made (url : Text) : ofUrl? url = some ⟨[(scriptsOption, scripts), (urlOption, escape url)]⟩ := by
    rw [ofUrl?, ofParts?_eq, packaged, if_pos rfl]
  have against (url : Text) : (ofUrl? url).map (fun config => config.database settings) =
      some (.ok (if url = [] then settings.databaseUrl else url)) := by
    rw [made, Option.map_some, database, get_ofParts]
    rfl
  refine ⟨?_, ?_, against url, ?_⟩
  · rw [ofParts?_eq]
    cases isValid folder with
    | false => rfl
    | true => exact congrArg some (get_ofParts folder url)
  · rw [made, Option.map_some, get_ofParts]
  · rw [against]
    split
    · rfl
    · rfl

example : (ofUrl? "postgresql+asyncpg://u:p%40%(name)s%%@db/%").map (fun config => config.get urlOption) =
    some (.ok "postgresql+asyncpg://u:p%40%(name)s%%@db/%") := by decide

end Config

end AnchorRegistry.Migration
