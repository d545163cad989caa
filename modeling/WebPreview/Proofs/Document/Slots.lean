import WebPreview.Document
import WebPreview.Proofs.Document.Search

/-! # The places of the style and the script

A page in which a style marker and a script marker stand apart has a place for each
(`WebPreview.Layout`). The style is written first, and the script's marker is then
looked for in a page that has the style text in it. The script comes to its own place
exactly when no such text gets in its way
(`WebPreview.Document.assemble_eq_fill_iff`).
-/

namespace WebPreview

open Text (FirstAt)

/-- A page with two places in it, for a style and for a script. -/
structure Layout where
  lead : String
  middle : String
  rest : String
  scriptFirst : Bool
deriving DecidableEq, Repr

namespace Layout

variable {l : Layout} {page style script : String}

/-- What stands in front of the style. -/
def beforeStyle (l : Layout) (script : String) : String :=
  if l.scriptFirst then l.lead ++ script ++ l.middle else l.lead

/-- What stands behind the style. -/
def afterStyle (l : Layout) (script : String) : String :=
  if l.scriptFirst then l.rest else l.middle ++ script ++ l.rest

/-- What stands in front of the script. -/
def beforeScript (l : Layout) (style : String) : String :=
  if l.scriptFirst then l.lead else l.lead ++ style ++ l.middle

/-- What stands behind the script. -/
def afterScript (l : Layout) (style : String) : String :=
  if l.scriptFirst then l.middle ++ style ++ l.rest else l.rest

/-- The page with the two texts in their places. -/
def fill (l : Layout) (style script : String) : String :=
  if l.scriptFirst then l.lead ++ script ++ l.middle ++ style ++ l.rest
  else l.lead ++ style ++ l.middle ++ script ++ l.rest

/-- The filled page, as the style with a text on either side. -/
theorem fill_eq_around_style :
    l.fill style script = l.beforeStyle script ++ style ++ l.afterStyle script := by
  unfold fill beforeStyle afterStyle
  split <;> simp only [String.append_assoc]

/-- The filled page, as the script with a text on either side. -/
theorem fill_eq_around_script :
    l.fill style script = l.beforeScript style ++ script ++ l.afterScript style := by
  unfold fill beforeScript afterScript
  split <;> simp only [String.append_assoc]

/-- The page around the first occurrences of two markers. There is none if a marker does
not occur or if the two occurrences overlap. -/
def of? (page style script : String) : Option Layout := do
  let (a, b) ← Text.splitFirst? style.toList page.toList
  let (c, d) ← Text.splitFirst? script.toList page.toList
  if a.length + style.length ≤ c.length then
    some ⟨.ofList a, .ofList (c.drop (a.length + style.length)), .ofList d, false⟩
  else if c.length + script.length ≤ a.length then
    some ⟨.ofList c, .ofList (a.drop (c.length + script.length)), .ofList b, true⟩
  else none

/-- The two markers stand first at the two places. -/
theorem firstAt_of_of? (found : of? page style script = some l) :
    FirstAt style page (l.beforeStyle script) (l.afterStyle script) ∧
      FirstAt script page (l.beforeScript style) (l.afterScript style) := by
  rw [Text.firstAt_iff, Text.firstAt_iff]
  simp only [of?, Option.bind_eq_bind, Option.bind_eq_some_iff] at found
  obtain ⟨⟨a, b⟩, styleSplit, ⟨c, d⟩, scriptSplit, found⟩ := found
  have same : a ++ style.toList ++ b = c ++ script.toList ++ d :=
    (Text.splitFirst?_eq_some_iff.1 styleSplit).1.symm.trans
      (Text.splitFirst?_eq_some_iff.1 scriptSplit).1
  simp only [← String.length_toList] at found
  split at found
  case isTrue apart =>
    obtain ⟨front, back⟩ := Text.split_of_apart same apart
    cases found
    simp only [beforeStyle, afterStyle, beforeScript, afterScript, String.toList_append,
      String.toList_ofList, Bool.false_eq_true, ↓reduceIte]
    rw [← front, ← back]
    exact ⟨styleSplit, scriptSplit⟩
  case isFalse =>
    split at found
    case isTrue apart =>
      obtain ⟨front, back⟩ := Text.split_of_apart same.symm apart
      cases found
      simp only [beforeStyle, afterStyle, beforeScript, afterScript, String.toList_append,
        String.toList_ofList, ↓reduceIte]
      rw [← front, ← back]
      exact ⟨styleSplit, scriptSplit⟩
    case isFalse => cases found

/-- With the style written, the script still comes to its own place: no marker that is
tried before its own occurs, and its own does not occur further in front. -/
structure ScriptStands (l : Layout) (block : String) (markers : List String) (marker : String) :
    Prop where
  untaken : ∀ other ∈ markers.takeWhile (· != marker), other ≠ "" →
    Text.occurs other (l.fill block marker) = false
  least : ∀ a b, l.fill block marker = a ++ marker ++ b → (l.beforeScript block).length ≤ a.length

end Layout

namespace Document

/-- The opening tag of a script block. -/
def openTag (type? : Option String) : String :=
  match type? with
  | some type => if type = "" then "<script>" else "<script type=\"" ++ type ++ "\">"
  | none => "<script>"

/-- A script block is the code between its tags. -/
theorem scriptBlock_eq (code : String) (type? : Option String) :
    scriptBlock code type? = openTag type? ++ code ++ "</script>" := by
  unfold scriptBlock openTag
  cases type? with
  | none => rfl
  | some type =>
      by_cases empty : type = "" <;> simp only [empty, ↓reduceIte, String.append_assoc]

/-- The tags that open a script for two markers end differently or are the same. -/
theorem eq_of_append_openTag {a b : List Char} {marker other : String} {type? : Option String}
    (same : a ++ (openTag (scriptType? marker type?)).toList =
      b ++ (openTag (scriptType? other type?)).toList) : a = b := by
  unfold scriptType? at same
  split at same
  · unfold moduleType? at same
    split at same <;> split at same
    · exact List.append_cancel_right same
    · have ends := congrArg List.reverse same
      simp [openTag] at ends
    · have ends := congrArg List.reverse same
      simp [openTag] at ends
    · exact List.append_cancel_right same
  · exact List.append_cancel_right same

/-- Where a script stands can be told from the documents that it gives for every code. -/
theorem eq_of_forall_scriptBlock {before behind before' behind' marker other : String}
    {type? : Option String}
    (same : ∀ code, before ++ scriptBlock code (scriptType? marker type?) ++ behind =
      before' ++ scriptBlock code (scriptType? other type?) ++ behind') :
    before = before' ∧ behind = behind' := by
  have around (code : List Char) :
      (before ++ openTag (scriptType? marker type?)).toList ++ code ++
          ("</script>" ++ behind).toList =
        (before' ++ openTag (scriptType? other type?)).toList ++ code ++
          ("</script>" ++ behind').toList := by
    have letters := congrArg String.toList (same (String.ofList code))
    rw [scriptBlock_eq, scriptBlock_eq] at letters
    simp only [String.toList_append, String.toList_ofList, List.append_assoc] at letters ⊢
    exact letters
  obtain ⟨heads, tails⟩ := List.eq_of_forall_append_between around
  simp only [String.toList_append] at heads tails
  constructor
  · apply String.toList_inj.1
    exact eq_of_append_openTag heads
  · apply String.toList_inj.1
    exact List.append_cancel_left tails

variable {page style marker : String} {markers : Markers} {type? : Option String} {l : Layout}

/-- The style is written over the first occurrence of the marker that is found. -/
theorem withStyle_of_firstAt {before behind : String}
    (found : Markers.find? page markers.style = some marker)
    (first : FirstAt marker page before behind) :
    withStyle page markers style = before ++ styleBlock style ++ behind := by
  unfold withStyle inject
  rw [found]
  exact first.replaceFirst _

/-- The script is written over the first occurrence of the marker that is found. -/
theorem withScript_of_firstAt {before behind : String}
    (found : Markers.find? page markers.script = some marker)
    (first : FirstAt marker page before behind) (code : String) :
    withScript page markers type? code =
      before ++ scriptBlock code (scriptType? marker type?) ++ behind := by
  unfold withScript
  rw [found]
  exact first.replaceFirst _

/-- **Assembling fills the two places exactly when the script's place stands.** On a
page with a style marker and a script marker apart, every script comes to its own
place, and everything else stays, if and only if no text of the written style gets in
the way. -/
theorem assemble_eq_fill_iff {styleMarker scriptMarker : String}
    (styleFound : Markers.find? page markers.style = some styleMarker)
    (scriptFound : Markers.find? page markers.script = some scriptMarker)
    (apart : Layout.of? page styleMarker scriptMarker = some l) :
    page = l.fill styleMarker scriptMarker ∧
      ((∀ code, assemble page (some code) (some style) markers type? =
          l.fill (styleBlock style) (scriptBlock code (scriptType? scriptMarker type?))) ↔
        l.ScriptStands (styleBlock style) markers.script scriptMarker) := by
  obtain ⟨styleFirst, -⟩ := Layout.firstAt_of_of? apart
  refine ⟨styleFirst.split.trans Layout.fill_eq_around_style.symm, ?_⟩
  obtain ⟨listed, nonempty, -, -⟩ :=
    Markers.earliest_iff.1 (Markers.find?_eq_some_iff.1 scriptFound)
  have split : l.fill (styleBlock style) scriptMarker = l.beforeScript (styleBlock style) ++
      scriptMarker ++ l.afterScript (styleBlock style) := Layout.fill_eq_around_script
  have present : Text.occurs scriptMarker (l.fill (styleBlock style) scriptMarker) = true :=
    Text.occurs_iff.2 ⟨_, _, split⟩
  have styled (code : String) : assemble page (some code) (some style) markers type? =
      withScript (l.fill (styleBlock style) scriptMarker) markers type? code := by
    change withScript (withStyle page markers style) markers type? code = _
    rw [withStyle_of_firstAt styleFound styleFirst, ← Layout.fill_eq_around_style]
  constructor
  · intro filled
    obtain ⟨other, found⟩ : ∃ other, Markers.find? (l.fill (styleBlock style) scriptMarker)
        markers.script = some other := by
      refine Option.ne_none_iff_exists'.1 fun missing => ?_
      exact Markers.find?_eq_none_iff.1 missing scriptMarker listed nonempty _ _ split
    obtain ⟨-, -, there, earlier⟩ := Markers.earliest_iff.1 (Markers.find?_eq_some_iff.1 found)
    obtain ⟨before, behind, first⟩ := Text.exists_firstAt there
    have filled' (code : String) : before ++ scriptBlock code (scriptType? other type?) ++ behind =
        l.beforeScript (styleBlock style) ++ scriptBlock code (scriptType? scriptMarker type?) ++
          l.afterScript (styleBlock style) := by
      rw [← withScript_of_firstAt found first, ← styled, filled, Layout.fill_eq_around_script]
    obtain ⟨rfl, rfl⟩ := eq_of_forall_scriptBlock filled'
    -- What is found at the script's own place, and reaches as far, is its own marker.
    have same : other = scriptMarker := by
      have twice := congrArg String.toList (first.split.symm.trans split)
      simp only [String.toList_append] at twice
      exact String.toList_inj.1 (List.append_cancel_left (List.append_cancel_right twice))
    subst same
    exact ⟨earlier, first.least⟩
  · intro stands code
    have found : Markers.find? (l.fill (styleBlock style) scriptMarker) markers.script =
        some scriptMarker :=
      Markers.find?_eq_some_iff.2
        (Markers.earliest_iff.2 ⟨listed, nonempty, present, stands.untaken⟩)
    rw [styled, withScript_of_firstAt found ⟨split, stands.least⟩, Layout.fill_eq_around_script]

/-- A page that is nothing but the two placeholders. -/
def bothPlaceholders : String := Markers.stylePlaceholder ++ Markers.scriptPlaceholder

/-- A style without the script's placeholder leaves the script its place. -/
theorem assemble_bothPlaceholders :
    Markers.find? bothPlaceholders (Markers.ofNames none []).style =
        some Markers.stylePlaceholder ∧
      Markers.find? bothPlaceholders (Markers.ofNames none []).script =
        some Markers.scriptPlaceholder ∧
      Layout.of? bothPlaceholders Markers.stylePlaceholder Markers.scriptPlaceholder =
        some ⟨"", "", "", false⟩ ∧
      ∀ code, assemble bothPlaceholders (some code) (some "p") (Markers.ofNames none []) none =
        Layout.fill ⟨"", "", "", false⟩ (styleBlock "p")
          (scriptBlock code (scriptType? Markers.scriptPlaceholder none)) := by
  have styleFound : Markers.find? bothPlaceholders (Markers.ofNames none []).style =
      some Markers.stylePlaceholder := by decide
  have scriptFound : Markers.find? bothPlaceholders (Markers.ofNames none []).script =
      some Markers.scriptPlaceholder := by decide
  have apart : Layout.of? bothPlaceholders Markers.stylePlaceholder Markers.scriptPlaceholder =
      some ⟨"", "", "", false⟩ := by decide
  refine ⟨styleFound, scriptFound, apart, ?_⟩
  refine ((assemble_eq_fill_iff styleFound scriptFound apart).2).2 ⟨by decide, ?_⟩
  exact (Text.firstAt_iff.2 (by decide) :
    FirstAt Markers.scriptPlaceholder _ (styleBlock "p") "").least

/-- A style with the script's placeholder takes the script, and the place on the page
is left as it was. -/
theorem assemble_script_into_style :
    Markers.find? bothPlaceholders (Markers.ofNames none []).style =
        some Markers.stylePlaceholder ∧
      Markers.find? bothPlaceholders (Markers.ofNames none []).script =
        some Markers.scriptPlaceholder ∧
      Layout.of? bothPlaceholders Markers.stylePlaceholder Markers.scriptPlaceholder =
        some ⟨"", "", "", false⟩ ∧
      assemble bothPlaceholders (some "X") (some Markers.scriptPlaceholder)
          (Markers.ofNames none []) none =
        "<style><script>X</script></style>" ++ Markers.scriptPlaceholder ∧
      Layout.fill ⟨"", "", "", false⟩ (styleBlock Markers.scriptPlaceholder)
          (scriptBlock "X" (scriptType? Markers.scriptPlaceholder none)) =
        "<style>" ++ Markers.scriptPlaceholder ++ "</style><script>X</script>" ∧
      assemble bothPlaceholders (some "X") (some Markers.scriptPlaceholder)
          (Markers.ofNames none []) none ≠
        Layout.fill ⟨"", "", "", false⟩ (styleBlock Markers.scriptPlaceholder)
          (scriptBlock "X" (scriptType? Markers.scriptPlaceholder none)) := by
  refine ⟨?_, ?_, ?_, ?_, ?_, ?_⟩ <;> decide

end Document

end WebPreview
