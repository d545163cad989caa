import WebPreview.Selection

/-! # How the files of a build are chosen

Choosing the files comes to one of four things (`WebPreview.Selection.resolves`). Without a page
there is nothing to build. Without a component framework there is always a selection, with or
without a script. With one there has to be an entry, and if that is a component, a script may stand
beside it. Whether there is an error, and which, is told from the names of the files alone. The
markers of a selection are those of its own files (`WebPreview.Selection.markers_of_resolve`).
-/

namespace WebPreview

/-- Nothing is found exactly under what is no name. -/
theorem Keyed.get?_eq_none_iff {α : Type} {xs : Keyed α} {name : String} :
    xs.get? name = none ↔ name ∉ xs.names := by
  rw [← contains_iff, contains, Bool.not_eq_true, Option.isSome_eq_false_iff,
    Option.isNone_iff_eq_none]

namespace SourceSet

variable {files : SourceSet} {framework : Framework} {suffix : String}

/-- No file has a suffix exactly if no name ends in it. -/
theorem firstWithSuffix_eq_none_iff :
    files.firstWithSuffix suffix = none ↔
      ∀ name ∈ files.names, Text.endsWith name suffix = false := by
  simp [firstWithSuffix, Keyed.names, Named.names]

/-- There is no entry when no name ends with one of the suffixes that an entry may have. -/
theorem entryFile?_eq_none_iff :
    files.entryFile? framework = none ↔
      ∀ suffix ∈ framework.entrySuffixes, ∀ name ∈ files.names,
        Text.endsWith name suffix = false := by
  simp only [entryFile?, List.findSome?_eq_none_iff, firstWithSuffix_eq_none_iff]

end SourceSet

namespace Selection

variable {framework : Framework} {files : SourceSet} {s : Selection}

/-- What choosing the files comes to. -/
inductive Resolves (framework : Framework) (files : SourceSet) :
    Except ResolveError Selection → Prop
  | noPage (missing : indexFile ∉ files.names) : Resolves framework files (.error .noIndex)
  | plain {page : SourceFile} (vanilla : framework = .vanilla)
    (here : files.get? indexFile = some page) :
    Resolves framework files (.ok ⟨framework, page, files.preferred defaultStyleFile ".css",
      files.preferred defaultScriptFile ".js", none,
      buildMarkers (files.preferred defaultStyleFile ".css")
        [files.preferred defaultScriptFile ".js"]⟩)
  | noEntry (present : indexFile ∈ files.names) (component : framework ≠ .vanilla)
    (missing : ∀ suffix ∈ framework.entrySuffixes, ∀ name ∈ files.names,
      Text.endsWith name suffix = false) :
    Resolves framework files (.error (.noEntry framework))
  | entered {page entry : SourceFile} (component : framework ≠ .vanilla)
    (here : files.get? indexFile = some page) (found : files.entryFile? framework = some entry) :
    Resolves framework files (.ok ⟨framework, page, files.preferred defaultStyleFile ".css",
      some entry,
      if isComponent framework entry then files.preferred defaultScriptFile ".js" else none,
      buildMarkers (files.preferred defaultStyleFile ".css") [some entry,
        if isComponent framework entry then files.preferred defaultScriptFile ".js" else none]⟩)

/-- Resolving follows its description. -/
theorem resolves (framework : Framework) (files : SourceSet) :
    Resolves framework files (resolve framework files) := by
  unfold resolve
  cases here : files.get? indexFile with
  | none => exact .noPage (Keyed.get?_eq_none_iff.1 here)
  | some page =>
      have present : indexFile ∈ files.names := by
        rw [← Keyed.contains_iff, Keyed.contains, here]
        rfl
      by_cases vanilla : framework = .vanilla
      · simp only [vanilla, ↓reduceIte]
        exact .plain rfl here
      · simp only [vanilla, ↓reduceIte]
        cases found : files.entryFile? framework with
        | none => exact .noEntry present vanilla (SourceSet.entryFile?_eq_none_iff.1 found)
        | some entry => exact .entered vanilla here found

/-- Whatever resolving comes to follows the description. -/
theorem resolves_of_eq {result : Except ResolveError Selection}
    (same : resolve framework files = result) : Resolves framework files result :=
  same ▸ resolves framework files

/-- The files of a selection were chosen for its framework. -/
theorem framework_of_resolve (resolved : resolve framework files = .ok s) :
    s.framework = framework := by
  cases resolves_of_eq resolved with
  | plain vanilla here => rfl
  | entered component here found => rfl

/-- The markers of a selection are those of its style sheet, of its entry and of what stands beside
the entry. -/
theorem markers_of_resolve (resolved : resolve framework files = .ok s) :
    s.markers = .ofNames (s.style.map (·.name))
      ((s.entry.toList ++ s.companion.toList).map (·.name)) := by
  have names (style : Option SourceFile) (scripts : List (Option SourceFile)) :
      buildMarkers style scripts =
        .ofNames (style.map (·.name)) ((scripts.flatMap Option.toList).map (·.name)) := by
    unfold buildMarkers
    congr 1
    induction scripts with
    | nil => rfl
    | cons script rest ih => cases script <;> simp [ih]
  cases resolves_of_eq resolved with
  | plain vanilla here => simp [names]
  | entered component here found => simp [names]

/-- Nothing stands beside an entry that there is not. -/
theorem companion_of_resolve (resolved : resolve framework files = .ok s)
    (missing : s.entry = none) : s.companion = none := by
  cases resolves_of_eq resolved with
  | plain vanilla here => rfl
  | entered component here found => cases missing

end Selection

end WebPreview
