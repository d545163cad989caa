import WebPreview.Proofs.Document.Slots

/-! # What a document leaves out

A page without a marker for the style sheet stays as it is, whatever the style sheet is
(`WebPreview.Document.ignoresStyle_iff`), and so does the document whose page has no marker for the
script once the style is written (`WebPreview.Document.ignoresScript_iff`). Writing the style
cannot take a script's marker away unless the two overlap on the page
(`WebPreview.Document.marked_of_apart`).
-/

namespace WebPreview

namespace Markers

private theorem styleTag_ne_empty (name : String) : styleTag name ≠ "" := by
  unfold styleTag
  simp

private theorem ne_empty_of_mem_scriptTags {name tag : String} (listed : tag ∈ scriptTags name) :
    tag ≠ "" := by
  simp only [scriptTags, List.mem_cons, List.not_mem_nil, or_false] at listed
  rcases listed with rfl | rfl | rfl <;> simp

/-- No style marker is empty. -/
theorem empty_not_mem_style (style : Option String) (scripts : List String) :
    "" ∉ (ofNames style scripts).style := by
  intro listed
  rcases List.mem_cons.1 listed with placeholder | tag
  · exact absurd placeholder (by decide)
  · obtain ⟨name, -, empty⟩ := Option.map_eq_some_iff.1 (Option.mem_toList.1 tag)
    exact styleTag_ne_empty name empty

/-- No script marker is empty. -/
theorem empty_not_mem_script (style : Option String) (scripts : List String) :
    "" ∉ (ofNames style scripts).script := by
  intro listed
  rcases List.mem_cons.1 listed with placeholder | tag
  · exact absurd placeholder (by decide)
  · obtain ⟨name, -, here⟩ := List.mem_flatMap.1 tag
    exact ne_empty_of_mem_scriptTags here rfl

end Markers

namespace Document

variable {page : String} {markers : Markers} {style type? : Option String}

/-- Whatever the style sheet is, the document is the page. -/
def IgnoresStyle (page : String) (markers : Markers) : Prop :=
  ∀ style, assemble page none (some style) markers = page

/-- Whatever the script is, the document is the one without a script. -/
def IgnoresScript (page : String) (style : Option String) (markers : Markers)
    (type? : Option String) : Prop :=
  ∀ code, assemble page (some code) style markers type? = assemble page none style markers

/-- A text cannot be the same around blocks of different lengths. -/
theorem not_forall_eq_around {before behind text : String} {block : String → String}
    (grows : (block "").length < (block "x").length) :
    ¬∀ code, before ++ block code ++ behind = text := by
  intro same
  have lengths := congrArg String.length ((same "").trans (same "x").symm)
  simp only [String.length_append] at lengths
  omega

/-- A page ignores the style exactly if it has no style marker in it. -/
theorem ignoresStyle_iff (nonempty : "" ∉ markers.style) :
    IgnoresStyle page markers ↔ ¬Markers.Marked page markers.style := by
  rw [Markers.not_marked_iff nonempty, ← Markers.find?_eq_none_iff]
  constructor
  · intro ignores
    cases found : Markers.find? page markers.style with
    | none => rfl
    | some marker =>
        have earliest := Markers.find?_eq_some_iff.1 found
        obtain ⟨before, behind, first⟩ := Text.exists_firstAt (Text.occurs_iff.2 earliest.present)
        have written (style : String) :
            before ++ styleBlock style ++ behind = page :=
          (withStyle_of_firstAt found first).symm.trans (ignores style)
        exact absurd written (not_forall_eq_around (by decide))
  · intro missing style
    simp only [assemble, withStyle, inject, missing]

/-- A page ignores the script exactly if there is no script marker in it without the style. -/
theorem ignoresScript_iff (nonempty : "" ∉ markers.script) :
    IgnoresScript page style markers type? ↔
      ¬Markers.Marked (assemble page none style markers) markers.script := by
  rw [Markers.not_marked_iff nonempty, ← Markers.find?_eq_none_iff]
  have twoSteps (code : String) : assemble page (some code) style markers type? =
      withScript (assemble page none style markers) markers type? code := rfl
  constructor
  · intro ignores
    cases found : Markers.find? (assemble page none style markers) markers.script with
    | none => rfl
    | some marker =>
        have earliest := Markers.find?_eq_some_iff.1 found
        obtain ⟨before, behind, first⟩ := Text.exists_firstAt (Text.occurs_iff.2 earliest.present)
        have written (code : String) :
            before ++ scriptBlock code (scriptType? marker type?) ++ behind =
              assemble page none style markers :=
          (withScript_of_firstAt found first code).symm.trans (ignores code)
        refine absurd written (not_forall_eq_around ?_)
        simp only [scriptBlock_eq, String.length_append]
        have longer : ("" : String).length < ("x" : String).length := by decide
        omega
  · intro missing code
    rw [twoSteps]
    simp only [withScript, missing]

/-- A script's marker that stands apart from the place of the style is there when the style is
written. -/
theorem marked_of_apart {styleMarker scriptMarker : String} {l : Layout} (text : String)
    (found : Markers.find? page markers.style = some styleMarker)
    (listed : scriptMarker ∈ markers.script)
    (apart : Layout.of? page styleMarker scriptMarker = some l) :
    Markers.Marked (assemble page none (some text) markers) markers.script := by
  obtain ⟨first, -⟩ := Layout.firstAt_of_of? apart
  have written : assemble page none (some text) markers =
      l.fill (styleBlock text) scriptMarker :=
    (withStyle_of_firstAt found first).trans Layout.fill_eq_around_style.symm
  refine ⟨scriptMarker, listed, Text.occurs_iff.2 ⟨l.beforeScript (styleBlock text),
    l.afterScript (styleBlock text), ?_⟩⟩
  rw [written, Layout.fill_eq_around_script]

/-- If writing the style takes all of the script's markers away, then each of them overlaps the
place of the style. -/
theorem overlaps_of_not_marked (marked : Markers.Marked page markers.script)
    (lost : ¬Markers.Marked (assemble page none style markers) markers.script) :
    style ≠ none ∧ ∃ styleMarker, Markers.find? page markers.style = some styleMarker ∧
      ∀ scriptMarker ∈ markers.script, Text.occurs scriptMarker page = true →
        Layout.of? page styleMarker scriptMarker = none := by
  cases style with
  | none => exact absurd marked lost
  | some text =>
      refine ⟨nofun, ?_⟩
      cases found : Markers.find? page markers.style with
      | none =>
          have same : assemble page none (some text) markers = page := by
            simp only [assemble, withStyle, inject, found]
          exact absurd marked (same ▸ lost)
      | some styleMarker =>
          refine ⟨styleMarker, rfl, fun scriptMarker listed _ => ?_⟩
          cases apart : Layout.of? page styleMarker scriptMarker with
          | none => rfl
          | some l => exact absurd (marked_of_apart text found listed apart) lost

/-- The tag of a style sheet whose name has the placeholder of the script in it. -/
example :
    let sheet := Markers.scriptPlaceholder ++ ".css"
    assemble (Markers.styleTag sheet) (some "x") (some "") (.ofNames (some sheet) ["script.js"]) =
      "<style></style>" := by decide

end Document

end WebPreview
