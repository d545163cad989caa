import Mathlib.Data.Prod.Lex
import WebPreview.Proofs.Selection.Resolve

/-! # Which file is preferred

A file is chosen by the key it stands under, and where several would do, by rank and place. The
entry of a framework is the least of its candidates, ordered by how much the suffix of the key is
preferred and then by where the key stands (`WebPreview.SourceSet.entryFile?_eq_some_iff`). A file
of a usual key goes before all others of its suffix (`WebPreview.SourceSet.prefers_iff`). With
both, a selection is told in full without the searches that find it
(`WebPreview.Selection.resolve_chooses`).
-/

namespace WebPreview

namespace SourceSet

variable {files : SourceSet} {framework : Framework} {suffixes : List String}
  {key suffix : String} {file : SourceFile}

/-- The file at a position of the set stands under a key that ends with the suffix of the rank. -/
def Candidate (suffixes : List String) (files : SourceSet) (rank position : Nat)
    (file : SourceFile) : Prop :=
  ∃ suffix key, suffixes[rank]? = some suffix ∧ files.entries[position]? = some (key, file) ∧
    Text.endsWith key suffix = true

/-- The file of the candidate whose suffix is preferred most, and that stands first among those
whose suffix is preferred as much. -/
def Least (suffixes : List String) (files : SourceSet) (file : SourceFile) : Prop :=
  ∃ rank position, Candidate suffixes files rank position file ∧
    ∀ rank' position' file', Candidate suffixes files rank' position' file' →
      toLex (rank, position) ≤ toLex (rank', position')

private theorem Least.unique {file' : SourceFile} (least : Least suffixes files file)
    (least' : Least suffixes files file') : file = file' := by
  obtain ⟨rank, position, candidate, before⟩ := least
  obtain ⟨rank', position', candidate', before'⟩ := least'
  have same := (before rank' position' file' candidate').antisymm
    (before' rank position file candidate)
  obtain ⟨rfl, rfl⟩ := Prod.mk.inj (toLex.injective same)
  obtain ⟨-, key, -, here, -⟩ := candidate
  obtain ⟨-, key', -, here', -⟩ := candidate'
  exact congrArg Prod.snd (Option.some.inj (here.symm.trans here'))

private theorem mem_names_of_getElem? {position : Nat}
    (here : files.entries[position]? = some (key, file)) : key ∈ files.names :=
  List.mem_map_of_mem (List.mem_of_getElem? here)

/-- What is found first stands in front of all that could be found. -/
theorem exists_first (found : files.firstWithSuffix suffix = some file) :
    ∃ (position : Nat) (key : String), files.entries[position]? = some (key, file) ∧
      Text.endsWith key suffix = true ∧
      ∀ (position' : Nat) (key' : String) file', files.entries[position']? = some (key', file') →
        Text.endsWith key' suffix = true → position ≤ position' := by
  obtain ⟨⟨key, file⟩, here, rfl⟩ := Option.map_eq_some_iff.1 found
  obtain ⟨ends, position, inside, same, before⟩ := List.find?_eq_some_iff_getElem.1 here
  refine ⟨position, key, ?_, ends, ?_⟩
  · rw [List.getElem?_eq_getElem inside, same]
  · intro position' key' file' there ends'
    by_contra earlier
    obtain ⟨inside', same'⟩ := List.getElem?_eq_some_iff.1 there
    have other := before position' (Nat.lt_of_not_le earlier)
    rw [same', ends'] at other
    cases other

private theorem least_of_findSome? (found : suffixes.findSome? files.firstWithSuffix = some file) :
    Least suffixes files file := by
  obtain ⟨front, suffix, behind, rfl, here, missing⟩ := List.findSome?_eq_some_iff.1 found
  obtain ⟨position, key, stands, ends, first⟩ := exists_first here
  refine ⟨front.length, position, ⟨suffix, key, ?_, stands, ends⟩, ?_⟩
  · rw [List.getElem?_append_right le_rfl, Nat.sub_self, List.getElem?_cons_zero]
  · intro rank' position' file' candidate
    obtain ⟨suffix', key', ranked, stands', ends'⟩ := candidate
    rw [Prod.Lex.toLex_le_toLex]
    rcases Nat.lt_trichotomy front.length rank' with later | same | earlier
    · exact .inl later
    · rw [← same, List.getElem?_append_right le_rfl, Nat.sub_self, List.getElem?_cons_zero]
        at ranked
      obtain rfl := Option.some.inj ranked
      exact .inr ⟨same, first position' key' file' stands' ends'⟩
    · rw [List.getElem?_append_left earlier] at ranked
      have nowhere := firstWithSuffix_eq_none_iff.1 (missing suffix' (List.mem_of_getElem? ranked))
        key' (mem_names_of_getElem? stands')
      rw [ends'] at nowhere
      cases nowhere

private theorem findSome?_eq_some_iff :
    suffixes.findSome? files.firstWithSuffix = some file ↔ Least suffixes files file := by
  refine ⟨least_of_findSome?, fun least => ?_⟩
  cases found : suffixes.findSome? files.firstWithSuffix with
  | some other => rw [least.unique (least_of_findSome? found)]
  | none =>
      obtain ⟨rank, position, ⟨suffix, key, ranked, stands, ends⟩, -⟩ := least
      have missing := List.findSome?_eq_none_iff.1 found suffix (List.mem_of_getElem? ranked)
      have nowhere := firstWithSuffix_eq_none_iff.1 missing key (mem_names_of_getElem? stands)
      rw [ends] at nowhere
      cases nowhere

/-- The entry is the first file with the least entry suffix. -/
theorem entryFile?_eq_some_iff :
    files.entryFile? framework = some file ↔ Least framework.entrySuffixes files file :=
  findSome?_eq_some_iff

/-- A better suffix goes before an earlier place, and an earlier place before a later one. -/
example : (SourceSet.ofContents [("a.js", ""), ("b.tsx", ""), ("c.tsx", "")]).entryFile? .react =
    some (.ofName "b.tsx") := by decide

private theorem firstWithSuffix_eq_some_iff :
    files.firstWithSuffix suffix = some file ↔ Least [suffix] files file := by
  rw [← findSome?_eq_some_iff]
  simp

/-- The file under the usual key, or else the first one under a key with the suffix, or none if
there is neither. -/
inductive Prefers (files : SourceSet) (key suffix : String) : Option SourceFile → Prop
  | usual {file : SourceFile} (here : files.get? key = some file) :
    Prefers files key suffix (some file)
  | first {file : SourceFile} (missing : key ∉ files.names) (least : Least [suffix] files file) :
    Prefers files key suffix (some file)
  | neither (missing : key ∉ files.names)
    (nowhere : ∀ name ∈ files.names, Text.endsWith name suffix = false) :
    Prefers files key suffix none

/-- The companion is the file under the preferred key, or else the first with the suffix. -/
theorem prefers_iff {choice : Option SourceFile} :
    Prefers files key suffix choice ↔ files.preferred key suffix = choice := by
  unfold preferred
  constructor
  · intro prefers
    cases prefers with
    | usual here => rw [here, Option.some_or]
    | first missing least =>
        rw [Keyed.get?_eq_none_iff.2 missing, Option.none_or, firstWithSuffix_eq_some_iff]
        exact least
    | neither missing nowhere =>
        rw [Keyed.get?_eq_none_iff.2 missing, Option.none_or, firstWithSuffix_eq_none_iff]
        exact nowhere
  · intro same
    cases here : files.get? key with
    | some file =>
        rw [here, Option.some_or] at same
        exact same ▸ .usual here
    | none =>
        rw [here, Option.none_or] at same
        have missing := Keyed.get?_eq_none_iff.1 here
        cases choice with
        | some file => exact .first missing (firstWithSuffix_eq_some_iff.1 same)
        | none => exact .neither missing (firstWithSuffix_eq_none_iff.1 same)

end SourceSet

namespace Selection

open SourceSet

variable {framework : Framework} {files : SourceSet} {s : Selection}

/-- The name of the entry ends as the names of the framework's components do. -/
def HasComponent (framework : Framework) (s : Selection) : Prop :=
  ∃ file suffix, s.entry = some file ∧ framework.componentSuffix? = some suffix ∧
    Text.endsWith file.name suffix = true

private theorem isComponent_iff {file : SourceFile} : isComponent framework file = true ↔
    ∃ suffix, framework.componentSuffix? = some suffix ∧ Text.endsWith file.name suffix = true := by
  unfold isComponent
  cases framework.componentSuffix? <;> simp

/-- The files of the set that the framework is built from, and the markers of them. -/
structure Chosen (framework : Framework) (files : SourceSet) (s : Selection) : Prop where
  builtFor : s.framework = framework
  markup : files.get? "index.html" = some s.markup
  style : Prefers files "style.css" ".css" s.style
  script : framework = .vanilla → Prefers files "script.js" ".js" s.entry
  entry : framework ≠ .vanilla →
    ∃ file, s.entry = some file ∧ Least framework.entrySuffixes files file
  companion : HasComponent framework s → Prefers files "script.js" ".js" s.companion
  alone : ¬HasComponent framework s → s.companion = none
  styleMarkers : s.markers.style = "\x7b\x7bSTYLE\x7d\x7d" :: s.style.toList.map fun file =>
    "<link rel=\"stylesheet\" href=\"" ++ file.name ++ "\">"
  scriptMarkers : s.markers.script =
    "\x7b\x7bSCRIPT\x7d\x7d" :: (s.entry.toList ++ s.companion.toList).flatMap fun file =>
      ["<script src=\"" ++ file.name ++ "\"></script>",
        "<script type=\"text/babel\" src=\"" ++ file.name ++ "\"></script>",
        "<script type=\"module\" src=\"" ++ file.name ++ "\"></script>"]

/-- The files of the set cannot be chosen, and the file is the one that is missing. -/
def Misses (framework : Framework) (files : SourceSet) (file : String) : Prop :=
  ∃ e, resolve framework files = .error e ∧ e.toPreviewError.kind = .missingEntry ∧
    e.toPreviewError.file = file

private theorem chosen_of_resolve (resolved : resolve framework files = .ok s) :
    Chosen framework files s := by
  have styleMarkers : s.markers.style = Markers.stylePlaceholder ::
      s.style.toList.map fun file => Markers.styleTag file.name := by
    rw [markers_of_resolve resolved]
    cases s.style <;> rfl
  have scriptMarkers : s.markers.script = Markers.scriptPlaceholder ::
      (s.entry.toList ++ s.companion.toList).flatMap fun file => Markers.scriptTags file.name := by
    rw [markers_of_resolve resolved, Markers.ofNames, List.flatMap_map]
  cases resolves_of_eq resolved with
  | plain vanilla here =>
      have plain (s : Selection) : ¬HasComponent framework s := by
        intro component
        obtain ⟨-, suffix, -, named, -⟩ := component
        rw [vanilla] at named
        cases named
      exact {
        builtFor := rfl
        markup := here
        style := prefers_iff.2 rfl
        script := fun _ => prefers_iff.2 rfl
        entry := fun component => absurd vanilla component
        companion := fun component => absurd component (plain _)
        alone := fun _ => rfl
        styleMarkers := styleMarkers
        scriptMarkers := scriptMarkers }
  | @entered page entry component here found =>
      have single {companion style : Option SourceFile} {markers : Markers} :
          HasComponent framework ⟨framework, page, style, some entry, companion, markers⟩ ↔
            isComponent framework entry = true := by
        simp [HasComponent, isComponent_iff]
      exact {
        builtFor := rfl
        markup := here
        style := prefers_iff.2 rfl
        script := fun vanilla => absurd vanilla component
        entry := fun _ => ⟨entry, rfl, entryFile?_eq_some_iff.1 found⟩
        companion := fun has => prefers_iff.2 (if_pos (single.1 has)).symm
        alone := fun has => if_neg fun is => has (single.2 is)
        styleMarkers := styleMarkers
        scriptMarkers := scriptMarkers }

/-- The conditions leave no choice. -/
theorem Chosen.unique {s' : Selection} (chosen : Chosen framework files s)
    (chosen' : Chosen framework files s') : s = s' := by
  have prefers {key suffix : String} {a b : Option SourceFile} (left : Prefers files key suffix a)
      (right : Prefers files key suffix b) : a = b :=
    (prefers_iff.1 left).symm.trans (prefers_iff.1 right)
  have entry : s.entry = s'.entry := by
    by_cases vanilla : framework = .vanilla
    · exact prefers (chosen.script vanilla) (chosen'.script vanilla)
    · obtain ⟨file, here, least⟩ := chosen.entry vanilla
      obtain ⟨file', here', least'⟩ := chosen'.entry vanilla
      rw [here, here', least.unique least']
  have companion : s.companion = s'.companion := by
    have same : HasComponent framework s ↔ HasComponent framework s' := by
      unfold HasComponent
      rw [entry]
    by_cases component : HasComponent framework s
    · exact prefers (chosen.companion component) (chosen'.companion (same.1 component))
    · exact (chosen.alone component).trans (chosen'.alone fun has => component (same.2 has)).symm
  have markup := Option.some.inj (chosen.markup.symm.trans chosen'.markup)
  have style := prefers chosen.style chosen'.style
  have built := chosen.builtFor.trans chosen'.builtFor.symm
  have markers : s.markers = s'.markers := by
    have styles := chosen.styleMarkers.trans (style ▸ chosen'.styleMarkers.symm)
    have scripts := chosen.scriptMarkers.trans
      (entry ▸ companion ▸ chosen'.scriptMarkers.symm)
    cases here : s.markers
    cases there : s'.markers
    rw [here, there] at styles scripts
    cases styles
    cases scripts
    rfl
  cases s
  cases s'
  cases built
  cases markup
  cases style
  cases entry
  cases companion
  cases markers
  rfl

private theorem mem_names_of_get? {name : String} {file : SourceFile}
    (here : files.get? name = some file) :
    name ∈ files.names := by
  rw [← Keyed.contains_iff, Keyed.contains, here]
  rfl

private theorem resolve_eq_noIndex_iff :
    resolve framework files = .error .noIndex ↔ indexFile ∉ files.names := by
  constructor
  · intro resolved
    cases resolves_of_eq resolved with
    | noPage missing => exact missing
  · intro missing
    have comes := resolves framework files
    generalize resolve framework files = result at comes
    cases comes with
    | noPage _ => rfl
    | plain _ here => exact absurd (mem_names_of_get? here) missing
    | noEntry present _ _ => exact absurd present missing
    | entered _ here _ => exact absurd (mem_names_of_get? here) missing

private theorem resolve_eq_noEntry_iff {other : Framework} :
    resolve framework files = .error (.noEntry other) ↔ other = framework ∧
      indexFile ∈ files.names ∧ framework ≠ .vanilla ∧
        ∀ suffix ∈ framework.entrySuffixes, ∀ key ∈ files.names,
          Text.endsWith key suffix = false := by
  constructor
  · intro resolved
    cases resolves_of_eq resolved with
    | noEntry present component missing => exact ⟨rfl, present, component, missing⟩
  · intro conditions
    obtain ⟨rfl, present, component, missing⟩ := conditions
    have comes := resolves other files
    generalize resolve other files = result at comes
    cases comes with
    | noPage absent => exact absurd present absent
    | plain vanilla _ => exact absurd vanilla component
    | noEntry _ _ _ => rfl
    | entered _ _ found =>
        rw [entryFile?_eq_none_iff.2 missing] at found
        cases found

private theorem resolve_eq_ok_iff : resolve framework files = .ok s ↔ Chosen framework files s := by
  refine ⟨chosen_of_resolve, fun chosen => ?_⟩
  cases resolved : resolve framework files with
  | ok other => rw [chosen.unique (chosen_of_resolve resolved)]
  | error e =>
      cases e with
      | noIndex =>
          have missing := resolve_eq_noIndex_iff.1 resolved
          exact absurd (mem_names_of_get? chosen.markup) missing
      | noEntry other =>
          obtain ⟨rfl, -, component, missing⟩ := resolve_eq_noEntry_iff.1 resolved
          obtain ⟨file, -, least⟩ := chosen.entry component
          have found := entryFile?_eq_some_iff.2 least
          rw [entryFile?_eq_none_iff.2 missing] at found
          cases found

private theorem misses_page_iff :
    Misses framework files "index.html" ↔ "index.html" ∉ files.names := by
  rw [← indexFile, ← resolve_eq_noIndex_iff]
  constructor
  · intro misses
    obtain ⟨e, resolved, -, named⟩ := misses
    cases e with
    | noIndex => exact resolved
    | noEntry other =>
        change defaultScriptFile = indexFile at named
        exact absurd named (by decide)
  · intro resolved
    exact ⟨_, resolved, rfl, rfl⟩

private theorem misses_entry_iff : Misses framework files "script.js" ↔
    "index.html" ∈ files.names ∧ framework ≠ .vanilla ∧
      ∀ suffix ∈ framework.entrySuffixes, ∀ key ∈ files.names,
        Text.endsWith key suffix = false := by
  constructor
  · intro misses
    obtain ⟨e, resolved, -, named⟩ := misses
    cases e with
    | noIndex => exact absurd named (by decide)
    | noEntry other => exact (resolve_eq_noEntry_iff.1 resolved).2
  · intro conditions
    exact ⟨_, resolve_eq_noEntry_iff.2 ⟨rfl, conditions⟩, rfl, rfl⟩

/-- **How the files are chosen.** Without a page that is what is missing, and with one a script is
missing exactly if the framework has components and no key ends with a suffix of its entries. In
every other case there is one selection, and it is the one that the order of preference tells. -/
theorem resolve_chooses (framework : Framework) (files : SourceSet) :
    (Misses framework files "index.html" ↔ "index.html" ∉ files.names) ∧
      (Misses framework files "script.js" ↔ "index.html" ∈ files.names ∧ framework ≠ .vanilla ∧
        ∀ suffix ∈ framework.entrySuffixes, ∀ key ∈ files.names,
          Text.endsWith key suffix = false) ∧
      (∀ s, resolve framework files = .ok s ↔ Chosen framework files s) ∧
      (¬Misses framework files "index.html" ∧ ¬Misses framework files "script.js" ↔
        ∃ s, Chosen framework files s) := by
  refine ⟨misses_page_iff, misses_entry_iff, fun s => resolve_eq_ok_iff, ?_⟩
  constructor
  · intro there
    cases resolved : resolve framework files with
    | ok s => exact ⟨s, chosen_of_resolve resolved⟩
    | error e =>
        cases e with
        | noIndex => exact absurd ⟨_, resolved, rfl, rfl⟩ there.1
        | noEntry other => exact absurd ⟨_, resolved, rfl, rfl⟩ there.2
  · intro chosen
    obtain ⟨s, chosen⟩ := chosen
    have resolved := resolve_eq_ok_iff.2 chosen
    constructor
    all_goals
      intro misses
      obtain ⟨e, failed, -⟩ := misses
      rw [resolved] at failed
      cases failed

end Selection

end WebPreview
