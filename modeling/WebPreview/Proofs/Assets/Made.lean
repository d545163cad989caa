import WebPreview.Assets
import WebPreview.Proofs.Build.Laws

/-! # What a build in this process makes

There is a script exactly if there is an entry. The style is that of the project joined with the
one that a component brings along, and the script has a type only if it is left to a runtime in
the browser (`WebPreview.Assets.made_of_value`).
-/

namespace WebPreview

namespace Selection

variable {s : Selection}

/-- The entry is a Vue component with a style block of its own. -/
def BringsStyle (s : Selection) : Prop :=
  s.framework = .vue ∧ s.entryIsComponent = true ∧
    ∃ entry, s.entry = some entry ∧ (Component.ofSource entry.content).style ≠ ""

/-- The style that the entry brings along: that of a Vue component, and otherwise none. -/
def ownStyle (s : Selection) : String :=
  match s.framework, s.entry with
  | .vue, some entry =>
    if s.entryIsComponent then (Component.ofSource entry.content).style else ""
  | _, _ => ""

private theorem ownStyle_of_component {entry : SourceFile} (vue : s.framework = .vue)
    (here : s.entry = some entry) (component : s.entryIsComponent = true) :
    s.ownStyle = (Component.ofSource entry.content).style := by
  simp only [ownStyle, vue, here, component, ↓reduceIte]

private theorem bringsStyle_iff : s.BringsStyle ↔ s.ownStyle ≠ "" := by
  constructor
  · rintro ⟨vue, component, entry, here, styled⟩
    rwa [ownStyle_of_component vue here component]
  · intro styled
    unfold ownStyle at styled
    split at styled
    · next entry vue here =>
      split at styled
      · next component => exact ⟨vue, component, entry, here, styled⟩
      · exact absurd rfl styled
    · exact absurd rfl styled

end Selection

namespace Assets

variable {engine : ScriptEngine} {s : Selection} {assets : Assets}

/-- An empty component style leaves the style file as it is. -/
theorem mergeStyles_empty (file : Option String) : mergeStyles file "" = file := by
  cases file with
  | none => rfl
  | some style =>
      by_cases empty : style = ""
      · subst empty
        rfl
      · simp [mergeStyles, Option.filter, empty]

private theorem mergeStyles_eq_none_iff {file : Option String} {component : String} :
    mergeStyles file component = none ↔ file = none ∧ component = "" := by
  unfold mergeStyles
  split
  · next parts =>
      have plain : component = "" := by
        by_cases empty : component = ""
        · exact empty
        · rw [if_neg empty] at parts
          exact absurd (List.append_eq_nil_iff.1 parts).2 (List.cons_ne_nil _ _)
      exact (and_iff_left plain).symm
  · next parts =>
      refine iff_of_false nofun ?_
      rintro ⟨rfl, rfl⟩
      exact parts rfl

/-- What a React entry comes to: a script in any case, without a type if the engine takes the
source and with one if it is left to a runtime, and the style as it is. -/
theorem of_value_ofReact {entry : SourceFile} {style : Option String}
    (built : (ofReact engine entry style).run.value = .ok assets) :
    ∃ script, assets = ⟨some script, style, none, false⟩ ∨
      assets = ⟨some script, style, some runtimeType, true⟩ := by
  unfold ofReact at built
  split at built
  · cases built
    exact ⟨_, .inl rfl⟩
  · cases built
    exact ⟨_, .inr rfl⟩
  · cases built

/-- What is made of a selection: a script if there is an entry, the style of the project with
that of the entry, and a type for the script only if that is left to a runtime in the browser. -/
structure Made (s : Selection) (assets : Assets) : Prop where
  script : assets.script = none ↔ s.entry = none
  style : assets.style = mergeStyles (s.style.map (·.content)) s.ownStyle
  scriptType : assets.degraded = false → assets.scriptType = none

/-- Where nothing is brought along, the style of the project is all there is. -/
theorem Made.of_plain {entry : SourceFile} (here : s.entry = some entry) (plain : ¬s.BringsStyle)
    {script : String} {type? : Option String} {degraded : Bool}
    (typed : degraded = false → type? = none) :
    Made s ⟨some script, s.style.map (·.content), type?, degraded⟩ where
  script := by simp [here]
  style := by rw [Decidable.not_not.1 (mt Selection.bringsStyle_iff.2 plain), mergeStyles_empty]
  scriptType := typed

/-- The assets that come out of a selection are the ones it makes. -/
theorem made_of_value (built : (ofSelection engine s).run.value = .ok assets) :
    Made s assets := by
  unfold ofSelection at built
  split at built
  · next none =>
      have own : s.ownStyle = "" := by simp [Selection.ownStyle, none]
      cases built
      exact ⟨iff_of_true rfl none, by rw [own, mergeStyles_empty], fun _ => rfl⟩
  · next vanilla here =>
      cases built
      exact .of_plain here (fun brings => nomatch vanilla.symm.trans brings.1) fun _ => rfl
  · next react here =>
      have plain : ¬s.BringsStyle := fun brings => nomatch react.symm.trans brings.1
      obtain ⟨script, rfl | rfl⟩ := of_value_ofReact built
      · exact .of_plain here plain fun _ => rfl
      · exact .of_plain here plain nofun
  · next entry vue here =>
      split at built
      · next component =>
          cases built
          refine ⟨by simp [here], ?_, fun _ => rfl⟩
          rw [Selection.ownStyle_of_component vue here component]
      · next single =>
          cases built
          exact .of_plain here (fun brings => single brings.2.1) fun _ => rfl
  · next svelte here =>
      have plain : ¬s.BringsStyle := fun brings => nomatch svelte.symm.trans brings.1
      split at built <;> cases built <;> exact .of_plain here plain fun _ => rfl

/-- A script is made if there is an entry. -/
theorem script_eq_none_iff (built : (ofSelection engine s).run.value = .ok assets) :
    assets.script = none ↔ s.entry = none :=
  (made_of_value built).script

/-- A style is made if there is a style sheet or a component brings its own. -/
theorem style_eq_none_iff (built : (ofSelection engine s).run.value = .ok assets) :
    assets.style = none ↔ s.style = none ∧ ¬s.BringsStyle := by
  rw [(made_of_value built).style, mergeStyles_eq_none_iff, Option.map_eq_none_iff,
    Selection.bringsStyle_iff, Decidable.not_not]

/-- A Vue component becomes a script, and its style joins that of the project. -/
theorem value_ofSelection_component {entry : SourceFile} (vue : s.framework = .vue)
    (here : s.entry = some entry) (component : s.entryIsComponent = true) :
    (ofSelection engine s).run.value = .ok ⟨some (Component.ofSource entry.content).toScript,
      mergeStyles (s.style.map (·.content)) (Component.ofSource entry.content).style, none,
      false⟩ := by
  unfold ofSelection
  rw [vue, here]
  simp only [component, ↓reduceIte]
  rfl

end Assets

end WebPreview
