import WebPreview.Proofs.Assets.Made
import WebPreview.Proofs.Document.Omissions
import WebPreview.Proofs.Validation.Verdicts

/-! # Places for what a build makes

A check looks at the files that were chosen, and a build makes a script and a style of them. The
two agree on the script. They agree on the style too, unless a component brings one along: that
style needs a marker on the page like any other, and a check does not ask for it. So everything
that is made has a marker exactly if the check reports nothing and the page has a style marker for
such a component (`WebPreview.Validation.placed_iff_check_eq_nil`). A component whose style is lost
without a word is `WebPreview.Validation.check_eq_nil_styledComponent`.

A marker on the page does not save a script whose every marker overlaps the place where the style
is written (`WebPreview.Selection.Covered`).
-/

namespace WebPreview

namespace Selection

/-- The page has a marker for a style. -/
def StyleMarked (s : Selection) : Prop := Markers.Marked s.markup.content s.markers.style

/-- The page has a marker for a script. -/
def ScriptMarked (s : Selection) : Prop := Markers.Marked s.markup.content s.markers.script

/-- Every marker of the page for a script overlaps the place where a style is written. -/
def Covered (s : Selection) : Prop :=
  ∃ styleMarker, Markers.find? s.markup.content s.markers.style = some styleMarker ∧
    ∀ scriptMarker ∈ s.markers.script, Text.occurs scriptMarker s.markup.content = true →
      Layout.of? s.markup.content styleMarker scriptMarker = none

variable {s : Selection} {framework : Framework} {files : SourceSet}

/-- No marker of a selection is empty. -/
theorem empty_not_mem_markers (resolved : resolve framework files = .ok s) :
    "" ∉ s.markers.style ∧ "" ∉ s.markers.script := by
  rw [markers_of_resolve resolved]
  exact ⟨Markers.empty_not_mem_style _ _, Markers.empty_not_mem_script _ _⟩

private theorem styleMarked_iff (resolved : resolve framework files = .ok s) :
    s.StyleMarked ↔ (Markers.find? s.markup.content s.markers.style).isSome = true :=
  Markers.marked_iff (empty_not_mem_markers resolved).1

private theorem scriptMarked_iff (resolved : resolve framework files = .ok s) :
    s.ScriptMarked ↔ (Markers.find? s.markup.content s.markers.script).isSome = true :=
  Markers.marked_iff (empty_not_mem_markers resolved).2

end Selection

/-- There is a place for all that was made. -/
structure Assets.Placed (assets : Assets) (s : Selection) : Prop where
  style : assets.style ≠ none → s.StyleMarked
  script : assets.script ≠ none → s.ScriptMarked

/-- A style was made, and the document is the same whatever the style is. -/
def Assets.LosesStyle (assets : Assets) (s : Selection) : Prop :=
  assets.style ≠ none ∧ Document.IgnoresStyle s.markup.content s.markers

/-- A script was made, and the document is the same whatever the script is. -/
def Assets.LosesScript (assets : Assets) (s : Selection) : Prop :=
  assets.script ≠ none ∧
    Document.IgnoresScript s.markup.content assets.style s.markers assets.scriptType

namespace Validation

variable {engine : ScriptEngine} {room : Nat} {v : Json} {files : SourceSet} {framework : Framework}
  {s : Selection} {assets : Assets}

private theorem reported_eq_nil_iff {style script : Option String} :
    reported style script = [] ↔ style = none ∧ script = none := by
  cases style <;> cases script <;> simp [reported]

/-- A check of chosen files finds nothing if there is a marker for each of them. -/
theorem markerProblems_eq_nil_iff (resolved : Selection.resolve framework files = .ok s) :
    markerProblems s = [] ↔
      (s.style ≠ none → s.StyleMarked) ∧ (scriptFile s ≠ none → s.ScriptMarked) := by
  have asked {α : Type} (file : Option α) (missing : Bool) :
      (file.filter fun _ => missing) = none ↔ (file ≠ none → missing = false) := by
    cases file <;> cases missing <;> simp
  simp only [markerProblems_eq, reported_eq_nil_iff, Option.map_eq_none_iff, asked,
    Option.isNone_eq_false_iff, Selection.styleMarked_iff resolved,
    Selection.scriptMarked_iff resolved]

private theorem scriptFile_eq_none_iff (resolved : Selection.resolve framework files = .ok s) :
    scriptFile s = none ↔ s.entry = none := by
  rw [scriptFile, Option.or_eq_none_iff,
    and_iff_right_of_imp (Selection.companion_of_resolve resolved)]

/-- Everything that is made of the files has a place if a check of them finds nothing, unless a
component brings a style for which there is no marker. -/
theorem placed_iff (built : (Assets.ofSelection engine s).run.value = .ok assets)
    (resolved : Selection.resolve framework files = .ok s) :
    assets.Placed s ↔ markerProblems s = [] ∧ (s.BringsStyle → s.StyleMarked) := by
  have style : assets.style ≠ none ↔ s.style ≠ none ∨ s.BringsStyle := by
    rw [ne_eq, Assets.style_eq_none_iff built, Classical.not_and_iff_not_or_not, Classical.not_not]
  have script : assets.script ≠ none ↔ scriptFile s ≠ none := by
    rw [ne_eq, Assets.script_eq_none_iff built, ← scriptFile_eq_none_iff resolved]
  have parts : assets.Placed s ↔
      (assets.style ≠ none → s.StyleMarked) ∧ (assets.script ≠ none → s.ScriptMarked) :=
    ⟨fun placed => ⟨placed.style, placed.script⟩, fun both => ⟨both.1, both.2⟩⟩
  rw [parts, style, script, markerProblems_eq_nil_iff resolved, or_imp, and_right_comm]

/-- A style is lost without a word if a component brings it and there is no marker for it. -/
theorem losesStyle_iff (built : (Assets.ofSelection engine s).run.value = .ok assets)
    (resolved : Selection.resolve framework files = .ok s) (silent : markerProblems s = []) :
    assets.LosesStyle s ↔ s.BringsStyle ∧ ¬s.StyleMarked := by
  have unmarked : Document.IgnoresStyle s.markup.content s.markers ↔ ¬s.StyleMarked :=
    Document.ignoresStyle_iff (Selection.empty_not_mem_markers resolved).1
  rw [Assets.LosesStyle, unmarked]
  refine and_congr_left fun missing => ?_
  have unstyled : s.style = none :=
    Decidable.not_not.1 fun styled =>
      missing (((markerProblems_eq_nil_iff resolved).1 silent).1 styled)
  rw [ne_eq, Assets.style_eq_none_iff built, and_iff_right unstyled, Classical.not_not]

/-- A script is lost without a word only if a style is written over all of its markers. -/
theorem covered_of_losesScript (built : (Assets.ofSelection engine s).run.value = .ok assets)
    (resolved : Selection.resolve framework files = .ok s) (silent : markerProblems s = [])
    (loses : assets.LosesScript s) : assets.style ≠ none ∧ s.Covered := by
  obtain ⟨made, ignores⟩ := loses
  have entered : scriptFile s ≠ none := by
    rwa [ne_eq, scriptFile_eq_none_iff resolved, ← Assets.script_eq_none_iff built]
  have marked : s.ScriptMarked := ((markerProblems_eq_nil_iff resolved).1 silent).2 entered
  have lost :=
    (Document.ignoresScript_iff (Selection.empty_not_mem_markers resolved).2).1 ignores
  exact Document.overlaps_of_not_marked marked lost

/-- **What a check that finds nothing is worth.** For files that can be chosen, all that the build
makes has a marker on the page exactly if the check finds nothing and the page has a style marker
for a component that brings a style. If the check finds nothing, then the document leaves out a
style only for want of that marker, and a script only if the style is written over all of its
markers. -/
theorem placed_iff_check_eq_nil (refuses : engine.OnlyRefuses)
    (named : Framework.ofValue room v = .ok framework)
    (resolved : Selection.resolve framework files = .ok s) :
    ∃ assets, (Assets.ofSelection engine s).run.value = .ok assets ∧
      (assets.Placed s ↔ check room v files = .ok [] ∧ (s.BringsStyle → s.StyleMarked)) ∧
      (check room v files = .ok [] →
        (assets.LosesStyle s ↔ s.BringsStyle ∧ ¬s.StyleMarked) ∧
        (assets.LosesScript s → assets.style ≠ none ∧ s.Covered)) := by
  obtain ⟨assets, built⟩ := Assets.exists_value_ofSelection refuses s
  have checked : check room v files = .ok [] ↔ markerProblems s = [] := by
    rw [check_of_resolve named resolved, Except.ok.injEq]
  refine ⟨assets, built, ?_, ?_⟩
  · rw [checked, placed_iff built resolved]
  · intro silent
    have silent := checked.1 silent
    exact ⟨losesStyle_iff built resolved silent, covered_of_losesScript built resolved silent⟩

/-- A Vue project of a page and a component with a style of its own. -/
def styledComponent (page : String) : SourceSet :=
  .ofContents [("index.html", page), ("App.vue", "<template></template><style>h1{}</style>")]

/-- What the project resolves to. -/
def styledSelection (page : String) : Selection :=
  ⟨.vue, ⟨"index.html", .markup, page⟩, none,
    some ⟨"App.vue", .vue, "<template></template><style>h1{}</style>"⟩, none,
    .ofNames none ["App.vue"]⟩

/-- A page with a tag for the component and nothing else. -/
def tagPage : String := "<script src=\"App.vue\"></script>"

/-- The same page with a place for a style. -/
def placeholderPage : String := Markers.stylePlaceholder ++ tagPage

/-- With a marker for its style, nothing of a styled component is lost. -/
theorem placed_iff_check_eq_nil_styled :
    let engine : ScriptEngine := fun _ => .error (.scriptEngine "refused")
    let s := styledSelection placeholderPage
    engine.OnlyRefuses ∧ Framework.ofValue usualRoom (.str "vue") = .ok .vue ∧
      Selection.resolve .vue (styledComponent placeholderPage) = .ok s ∧
      ∃ assets, (Assets.ofSelection engine s).run.value = .ok assets ∧
        assets.Placed s ∧ ¬assets.LosesStyle s ∧ ¬assets.LosesScript s := by
  intro engine s
  have refuses : engine.OnlyRefuses := fun _ _ raised => ⟨_, (Except.error.inj raised).symm⟩
  have named : Framework.ofValue usualRoom (.str "vue") = .ok .vue := rfl
  have resolved : Selection.resolve .vue (styledComponent placeholderPage) = .ok s := by rfl
  have silent : check usualRoom (.str "vue") (styledComponent placeholderPage) = .ok [] :=
    (check_of_resolve named resolved).trans (congrArg Except.ok (by decide))
  have marked : s.StyleMarked := ⟨Markers.stylePlaceholder, by decide, by decide⟩
  obtain ⟨assets, built, placed, lost⟩ := placed_iff_check_eq_nil refuses named resolved
  refine ⟨refuses, named, resolved, assets, built, placed.2 ⟨silent, fun _ => marked⟩, ?_, ?_⟩
  · exact fun loses => ((lost silent).1.1 loses).2 marked
  · intro loses
    obtain ⟨-, styleMarker, found, covered⟩ := (lost silent).2 loses
    have placeholder : Markers.find? s.markup.content s.markers.style =
        some Markers.stylePlaceholder := by decide
    obtain rfl := Option.some.inj (found.symm.trans placeholder)
    have apart : Layout.of? s.markup.content Markers.stylePlaceholder tagPage =
        some ⟨"", "", "", false⟩ := by decide
    cases apart.symm.trans (covered tagPage (by decide) (by decide))

/-- Without one, its style is lost, and a check finds nothing. -/
theorem check_eq_nil_styledComponent :
    let engine : ScriptEngine := fun _ => .error (.scriptEngine "refused")
    let s := styledSelection tagPage
    engine.OnlyRefuses ∧ Selection.resolve .vue (styledComponent tagPage) = .ok s ∧
      check usualRoom (.str "vue") (styledComponent tagPage) = .ok [] ∧
      ∃ assets, (Assets.ofSelection engine s).run.value = .ok assets ∧
        assets.style = some "h1{}" ∧ ¬assets.Placed s ∧ assets.LosesStyle s := by
  intro engine s
  have refuses : engine.OnlyRefuses := fun _ _ raised => ⟨_, (Except.error.inj raised).symm⟩
  have named : Framework.ofValue usualRoom (.str "vue") = .ok .vue := rfl
  have resolved : Selection.resolve .vue (styledComponent tagPage) = .ok s := by rfl
  have silent : markerProblems s = [] := by decide
  have component : s.entryIsComponent = true := by decide
  have unmarked : ¬s.StyleMarked := by
    rw [Selection.styleMarked_iff resolved]
    decide
  have ignored : Document.IgnoresStyle s.markup.content s.markers :=
    (Document.ignoresStyle_iff (Selection.empty_not_mem_markers resolved).1).2 unmarked
  have style : Assets.mergeStyles (s.style.map (·.content))
      (Component.ofSource "<template></template><style>h1{}</style>").style = some "h1{}" := by
    decide
  have made := Option.ne_none_iff_exists'.2 ⟨_, style⟩
  refine ⟨refuses, resolved, (check_of_resolve named resolved).trans (congrArg Except.ok silent),
    _, Assets.value_ofSelection_component rfl rfl component, style, ?_, made, ignored⟩
  exact fun placed => unmarked (placed.style made)

end Validation

end WebPreview
