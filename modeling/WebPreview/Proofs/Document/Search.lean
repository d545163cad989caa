import WebPreview.Markers
import WebPreview.Proofs.Text.Occurrence

/-! # Which marker is found

Markers are tried in their order in the list, wherever they stand on the page. What is found is the
earliest one that the page contains (`WebPreview.Markers.find?_eq_some_iff`), and nothing is found
on a page that contains none of them (`WebPreview.Markers.find?_eq_none_iff`). The empty marker
counts for nothing.
-/

namespace WebPreview.Markers

variable {page marker other : String} {markers : List String}

/-- The page contains none of the markers, the empty one aside. -/
def Unmarked (page : String) (markers : List String) : Prop :=
  ∀ marker ∈ markers, marker ≠ "" → ∀ before behind, page ≠ before ++ marker ++ behind

/-- The page contains the marker, which is not empty, and none that stands in front of it in
the list, the empty one aside. -/
structure Earliest (page : String) (markers : List String) (marker : String) : Prop where
  nonempty : marker ≠ ""
  present : ∃ before behind, page = before ++ marker ++ behind
  listed : ∃ tried later, markers = tried ++ marker :: later ∧ Unmarked page tried

/-- The page contains one of the markers. -/
def Marked (page : String) (markers : List String) : Prop :=
  ∃ marker ∈ markers, Text.occurs marker page = true

private theorem unmarked_iff : Unmarked page markers ↔
    ∀ marker ∈ markers, marker ≠ "" → Text.occurs marker page = false := by
  refine forall₂_congr fun marker _ => imp_congr_right fun _ => ?_
  rw [← Bool.not_eq_true, Text.occurs_iff, not_exists]
  exact forall_congr' fun _ => not_exists.symm

/-- Nothing is found on a page that contains none of the markers, and only there. -/
theorem find?_eq_none_iff : find? page markers = none ↔ Unmarked page markers := by
  rw [find?, List.find?_eq_none, unmarked_iff]
  simp only [Bool.and_eq_true, bne_iff_ne, not_and, Bool.not_eq_true]

/-- What is found is the earliest marker. -/
theorem find?_eq_some_iff : find? page markers = some marker ↔ Earliest page markers marker := by
  have skipped (tried : List String) :
      (∀ other ∈ tried, (!(other != "" && Text.occurs other page)) = true) ↔
        Unmarked page tried := by
    simp only [← find?_eq_none_iff, find?, List.find?_eq_none, Bool.not_eq_true', Bool.not_eq_true]
  rw [find?, List.find?_eq_some_iff_append, Bool.and_eq_true, bne_iff_ne, Text.occurs_iff]
  simp only [skipped]
  constructor
  · rintro ⟨⟨nonempty, present⟩, tried, later, split, missing⟩
    exact ⟨nonempty, present, tried, later, split, missing⟩
  · rintro ⟨nonempty, present, tried, later, split, missing⟩
    exact ⟨⟨nonempty, present⟩, tried, later, split, missing⟩

/-- There is one earliest marker. -/
theorem Earliest.unique (earliest : Earliest page markers marker)
    (earliest' : Earliest page markers other) : marker = other :=
  Option.some.inj
    ((find?_eq_some_iff.2 earliest).symm.trans (find?_eq_some_iff.2 earliest'))

private theorem takeWhile_ne_of_not_mem {tried later : List String} (fresh : marker ∉ tried) :
    (tried ++ marker :: later).takeWhile (· != marker) = tried := by
  have different : ∀ other ∈ tried, (other != marker) = true := by
    intro other member
    exact bne_iff_ne.2 fun same => fresh (same ▸ member)
  rw [List.takeWhile_append_of_pos different, List.takeWhile_cons_of_neg (by simp), List.append_nil]

/-- The markers in front of the earliest one are those before its first place in the list. -/
theorem earliest_iff : Earliest page markers marker ↔
    marker ∈ markers ∧ marker ≠ "" ∧ Text.occurs marker page = true ∧
      ∀ other ∈ markers.takeWhile (· != marker), other ≠ "" → Text.occurs other page = false := by
  constructor
  · rintro ⟨nonempty, present, tried, later, rfl, missing⟩
    have fresh : marker ∉ tried := by
      intro member
      obtain ⟨before, behind, here⟩ := present
      exact missing marker member nonempty before behind here
    rw [takeWhile_ne_of_not_mem fresh]
    exact ⟨by simp, nonempty, Text.occurs_iff.2 present, unmarked_iff.1 missing⟩
  · rintro ⟨listed, nonempty, present, untaken⟩
    obtain ⟨tried, later, rfl, fresh⟩ := List.eq_append_cons_of_mem listed
    rw [takeWhile_ne_of_not_mem fresh] at untaken
    exact ⟨nonempty, Text.occurs_iff.1 present, tried, later, rfl, unmarked_iff.2 untaken⟩

/-- Without the empty one among them, a page contains a marker exactly if it is not unmarked. -/
theorem not_marked_iff (nonempty : "" ∉ markers) :
    ¬Marked page markers ↔ Unmarked page markers := by
  rw [unmarked_iff, Marked, not_exists]
  refine forall_congr' fun marker => ?_
  rw [not_and, Bool.not_eq_true]
  refine imp_congr_right fun listed => ?_
  have tried : marker ≠ "" := fun empty => nonempty (empty ▸ listed)
  exact ⟨fun missing _ => missing, fun missing => missing tried⟩

/-- Without the empty one among them, a page contains a marker exactly if one is found. -/
theorem marked_iff (nonempty : "" ∉ markers) :
    Marked page markers ↔ (find? page markers).isSome = true := by
  rw [← Option.ne_none_iff_isSome, ne_eq, find?_eq_none_iff, ← not_marked_iff nonempty,
    Classical.not_not]

end WebPreview.Markers
