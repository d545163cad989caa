import WebPreview.Proofs.Framework.Identifiers
import WebPreview.Proofs.Pipeline.Faults
import WebPreview.Validation

/-! # What a check and a build say of the same files

A check finds out without building why a build in this process would fail. It comes to an end
whatever the files are, and there are four ways in which it and the build go together
(`WebPreview.Validation.Verdict`): no framework, no page or no entry is the one problem of the
check and the failure of the build, and everything else is built, with at most one word about the
style sheet and one about the script (`WebPreview.Validation.compile_agrees_with_check`). Only a
value that cannot be shown, which is no text, stops a check.

The script engine is assumed to stop with nothing but refusals of its sources.
-/

namespace WebPreview

private theorem Pipeline.choose_of_parse_eq_error {id : String} {files : SourceSet}
    {e : PreviewError}
    (failed : Framework.parse id = .error e) : (State.start id files).choose = .error e :=
  Except.bind_eq_error_iff.2 (.inl failed)

private theorem Pipeline.choose_of_resolve_eq_error {id : String} {files : SourceSet}
    {framework : Framework} {e : ResolveError} (named : Framework.parse id = .ok framework)
    (failed : Selection.resolve framework files = .error e) :
    (State.start id files).choose = .error e.toPreviewError := by
  have unchosen : (Selection.resolve framework files).mapError ResolveError.toPreviewError =
      .error e.toPreviewError := Except.mapError_eq_error_iff.2 ⟨e, failed, rfl⟩
  exact Except.bind_eq_error_iff.2 (.inr ⟨_, named, Except.bind_eq_error_iff.2 (.inl unchosen)⟩)

namespace Validation

variable {engine : ScriptEngine} {room : Nat} {v : Json} {name : String} {files : SourceSet}
  {framework : Framework} {s : Selection}

/-- One problem at most about a style sheet, and one at most about a script. -/
def reported (style script : Option String) : List String :=
  (style.map noStyleTag).toList ++ (script.map noScriptTag).toList

/-- The one problem of files that cannot be chosen. -/
inductive IsResolveProblem : List String → Prop
  | unnamed (name : String) : IsResolveProblem ["Unsupported framework: " ++ name]
  | noPage : IsResolveProblem [indexFile ++ " is required"]
  | noEntry (framework message : String) :
    IsResolveProblem
      ["An entry file is required for " ++ framework ++ " projects (" ++ message ++ ")"]

private theorem not_isResolveProblem_noStyleTag (name : String) :
    ¬IsResolveProblem [noStyleTag name] := by
  generalize told : [noStyleTag name] = problems
  rintro (_ | _ | _)
  all_goals
    have letters := congrArg String.toList (List.cons.inj told).1
    simp [noStyleTag, indexFile] at letters

private theorem not_isResolveProblem_noScriptTag (name : String) :
    ¬IsResolveProblem [noScriptTag name] := by
  generalize told : [noScriptTag name] = problems
  rintro (_ | _ | _)
  all_goals
    have letters := congrArg String.toList (List.cons.inj told).1
    simp [noScriptTag, indexFile] at letters

private theorem not_isResolveProblem_reported (style script : Option String) :
    ¬IsResolveProblem (reported style script) := by
  cases style with
  | none =>
      cases script with
      | none => exact nofun
      | some name => exact not_isResolveProblem_noScriptTag name
  | some name =>
      cases script with
      | none => exact not_isResolveProblem_noStyleTag name
      | some other => exact nofun

private theorem check_of_unnamed
    (unnamed : Framework.ofValue room v = .error (.preview (.unsupported name))) :
    check room v files = .ok ["Unsupported framework: " ++ name] := by
  simp only [check, unnamed]
  rfl

private theorem check_of_noPage (named : Framework.ofValue room v = .ok framework)
    (failed : Selection.resolve framework files = .error .noIndex) :
    check room v files = .ok [indexFile ++ " is required"] := by
  simp only [check, named, failed]
  rfl

private theorem check_of_noEntry {other : Framework}
    (named : Framework.ofValue room v = .ok framework)
    (failed : Selection.resolve framework files = .error (.noEntry other)) :
    check room v files = .ok ["An entry file is required for " ++ framework.id ++ " projects ("
      ++ (ResolveError.noEntry other).message ++ ")"] := by
  simp only [check, named, failed]
  rfl

/-- A value that cannot be shown stops a check with the fault of showing it. -/
theorem check_of_text_eq_error {fault : Raised} (failed : v.text room = .error fault) :
    check room v files = .error fault := by
  have stopped := Framework.ofValue_of_text_eq_error failed
  rcases Json.text_error failed with rfl | rfl
  · simp only [check, stopped, Json.shownTooDeep]
  · simp only [check, stopped, Json.shownTooLong]

/-- A set that resolves has the problems of its markers. -/
theorem check_of_resolve (named : Framework.ofValue room v = .ok framework)
    (resolved : Selection.resolve framework files = .ok s) :
    check room v files = .ok (markerProblems s) := by
  simp only [check, named, resolved]
  rfl

private theorem filterMap_toList_if {α β : Type} (file : Option α) (missing : Bool) (word : α → β) :
    file.toList.filterMap (fun file => if missing then some (word file) else none) =
      ((file.filter fun _ => missing).map word).toList := by
  cases file <;> cases missing <;> rfl

/-- A check of chosen files reports the style sheet if the page has no marker for it, and the
script if the page has none for that. -/
theorem markerProblems_eq (s : Selection) :
    markerProblems s = reported
      ((s.style.filter fun _ => (Markers.find? s.markup.content s.markers.style).isNone).map
        (·.name))
      (((scriptFile s).filter fun _ =>
        (Markers.find? s.markup.content s.markers.script).isNone).map (·.name)) := by
  simp only [markerProblems, filterMap_toList_if, reported, Option.map_map]
  rfl

/-- The outcome of a build in this process and the problems of a check go together, and the name
and the files are why. -/
inductive Verdict (name : String) (files : SourceSet) : Outcome → List String → Prop
  | unnamed (unknown : ∀ framework, Framework.parse name ≠ .ok framework) :
    Verdict name files (.failure ⟨"Unsupported framework: " ++ name, unknownFile⟩)
      ["Unsupported framework: " ++ name]
  | noPage {framework : Framework} (named : Framework.parse name = .ok framework)
    (missing : indexFile ∉ files.names) :
    Verdict name files (.failure ⟨indexFile ++ " is required", indexFile⟩)
      [indexFile ++ " is required"]
  | noEntry {framework : Framework} {message : String}
    (named : Framework.parse name = .ok framework) (present : indexFile ∈ files.names)
    (component : framework ≠ .vanilla)
    (missing : ∀ suffix ∈ framework.entrySuffixes, ∀ name ∈ files.names,
      Text.endsWith name suffix = false) :
    Verdict name files (.failure ⟨message, defaultScriptFile⟩)
      ["An entry file is required for " ++ framework.id ++ " projects (" ++ message ++ ")"]
  | built {s : Selection} {html : String} {style script : Option String}
    (named : Framework.parse name = .ok s.framework)
    (resolved : Selection.resolve s.framework files = .ok s)
    (styled : ∀ file, style = some file → s.style.map (·.name) = some file)
    (scripted : ∀ file, script = some file → (s.companion.or s.entry).map (·.name) = some file) :
    Verdict name files (.success html) (reported style script)

private theorem Verdict.failure_iff {outcome : Outcome} {problems : List String}
    (verdict : Verdict name files outcome problems) :
    (∃ reason, outcome = .failure reason) ↔ IsResolveProblem problems := by
  cases verdict with
  | unnamed => exact iff_of_true ⟨_, rfl⟩ (.unnamed _)
  | noPage => exact iff_of_true ⟨_, rfl⟩ .noPage
  | noEntry => exact iff_of_true ⟨_, rfl⟩ (.noEntry _ _)
  | built => exact iff_of_false nofun (not_isResolveProblem_reported _ _)

private theorem verdict_of_selection {html : String}
    (named : Framework.parse name = .ok s.framework)
    (resolved : Selection.resolve s.framework files = .ok s) :
    Verdict name files (.success html) (markerProblems s) := by
  rw [markerProblems_eq]
  refine .built named resolved ?_ ?_
  · intro shown reported
    obtain ⟨file, missing, rfl⟩ := Option.map_eq_some_iff.1 reported
    rw [(Option.filter_eq_some_iff.1 missing).1]
    rfl
  · intro shown reported
    obtain ⟨file, missing, rfl⟩ := Option.map_eq_some_iff.1 reported
    exact congrArg (Option.map (·.name)) (Option.filter_eq_some_iff.1 missing).1

/-- The build with a text and the check with a value that stands for it come to results that go
together. -/
theorem exists_verdict (refuses : engine.OnlyRefuses) (shown : v.text room = .ok name)
    (files : SourceSet) :
    ∃ outcome problems,
      (Pipeline.compile engine none name files).run.value = .ok outcome ∧
      check room v files = .ok problems ∧ Verdict name files outcome problems := by
  have value := Framework.ofValue_of_text shown
  have failure {e : PreviewError} (stopped : (Pipeline.State.start name files).choose = .error e) :
      (Pipeline.compile engine none name files).run.value = .ok (.failure e.toFailure) :=
    Pipeline.value_compile_of_error stopped
  cases named : Framework.parse name with
  | error e =>
      have built := failure (Pipeline.choose_of_parse_eq_error named)
      obtain rfl := Framework.eq_of_parse_eq_error named
      rw [named] at value
      refine ⟨_, _, built, check_of_unnamed value, .unnamed ?_⟩
      exact fun _ other => nomatch named.symm.trans other
  | ok framework =>
      rw [named] at value
      cases chosen : Selection.resolve framework files with
      | error e =>
          have built := failure (Pipeline.choose_of_resolve_eq_error named chosen)
          cases Selection.resolves_of_eq chosen with
          | noPage missing =>
              exact ⟨_, _, built, check_of_noPage value chosen, .noPage named missing⟩
          | noEntry present component missing =>
              exact ⟨_, _, built, check_of_noEntry value chosen,
                .noEntry named present component missing⟩
      | ok s =>
          obtain rfl := Selection.framework_of_resolve chosen
          obtain ⟨html, built⟩ := Pipeline.exists_document_of_choose refuses
            (Pipeline.choose_eq_ok_iff.2 ⟨named, chosen⟩)
          exact ⟨_, _, built, check_of_resolve value chosen, verdict_of_selection named chosen⟩

/-- **A check and a build agree.** A text stands for itself, and any other value for the text that
it is shown as. Whatever text a value stands for and whatever the files are, the build in this
process comes to an outcome and the check to its problems. The build fails exactly if the check has
the one problem of files that cannot be chosen, and it fails with the same reason; in every other
case it comes to a document, and the check reports nothing but tags that the page has not. -/
theorem compile_agrees_with_check (refuses : engine.OnlyRefuses) (room : Nat) (v : Json)
    (files : SourceSet) :
    (∀ id, v = .str id → v.text room = .ok id) ∧
    (∀ name, v.text room = .ok name → ∃ outcome problems,
      (Pipeline.compile engine none name files).run.value = .ok outcome ∧
      check room v files = .ok problems ∧ Verdict name files outcome problems ∧
      ((∃ reason, outcome = .failure reason) ↔ IsResolveProblem problems)) ∧
    (∀ fault, v.text room = .error fault → check room v files = .error fault) := by
  refine ⟨?_, fun name shown => ?_, fun fault => check_of_text_eq_error⟩
  · rintro id rfl
    rfl
  · obtain ⟨outcome, problems, built, checked, verdict⟩ := exists_verdict refuses shown files
    exact ⟨outcome, problems, built, checked, verdict, verdict.failure_iff⟩

/-- A React project without an entry fails, though its engine would refuse everything, and the
check has the reason. -/
theorem compile_agrees_with_check_pageOnly :
    let engine : ScriptEngine := fun _ => .error (.scriptEngine "refused")
    let files : SourceSet := .ofContents [("index.html", ""), ("a.css", "")]
    engine.OnlyRefuses ∧ ∃ problems,
      (Pipeline.compile engine none "react" files).run.value = .ok (.failure
        ⟨"No entry file (.jsx or .tsx or .js) found for react", "script.js"⟩) ∧
      check usualRoom (.str "react") files = .ok problems ∧ IsResolveProblem problems := by
  intro engine files
  have refuses : engine.OnlyRefuses := fun _ _ raised => ⟨_, (Except.error.inj raised).symm⟩
  have chosen : Selection.resolve .react files = .error (.noEntry .react) := rfl
  have told : (ResolveError.noEntry .react).toPreviewError.toFailure =
      ⟨"No entry file (.jsx or .tsx or .js) found for react", "script.js"⟩ := by decide
  obtain ⟨texts, agrees, -⟩ := compile_agrees_with_check refuses usualRoom (.str "react") files
  obtain ⟨outcome, problems, built, checked, -, failed⟩ := agrees "react" (texts "react" rfl)
  have missing : (Pipeline.compile engine none "react" files).run.value =
      .ok (.failure (ResolveError.noEntry .react).toPreviewError.toFailure) :=
    Pipeline.value_compile_of_error (Pipeline.choose_of_resolve_eq_error rfl chosen)
  rw [told] at missing
  have same := Except.ok.inj (built.symm.trans missing)
  exact ⟨refuses, problems, missing, checked, failed.1 ⟨_, same⟩⟩

end Validation

end WebPreview
