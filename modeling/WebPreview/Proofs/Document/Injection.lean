import WebPreview.Document
import WebPreview.Proofs.Document.Search

/-! # The place of a block

Markers are tried in their order in the list, and the page is read from its front; the two orders
have nothing to do with each other. A block goes to the first place of the earliest marker that
the page contains (`WebPreview.Document.inject_eq_iff`), wherever on the page the other markers
stand. A page that contains none stays as it is.
-/

namespace WebPreview

open Text (FirstAt)

namespace Document

open Markers (Unmarked Earliest)

variable {page marker : String} {markers : List String}

private theorem inject_of_unmarked (missing : Unmarked page markers) (block : String) :
    inject page markers block = page := by
  unfold inject
  rw [Markers.find?_eq_none_iff.2 missing]

private theorem inject_of_earliest {before behind : String}
    (earliest : Earliest page markers marker)
    (first : FirstAt marker page before behind) (block : String) :
    inject page markers block = before ++ block ++ behind := by
  unfold inject
  rw [Markers.find?_eq_some_iff.2 earliest]
  exact first.replaceFirst block

/-- A page with a marker has an earliest one, and that one has a first place. -/
theorem unmarked_or_exists_first (page : String) (markers : List String) :
    Unmarked page markers ∨ ∃ before marker behind, Earliest page markers marker ∧
      FirstAt marker page before behind := by
  cases found : Markers.find? page markers with
  | none => exact .inl (Markers.find?_eq_none_iff.1 found)
  | some marker =>
      have earliest := Markers.find?_eq_some_iff.1 found
      obtain ⟨before, behind, first⟩ := Text.exists_firstAt (Text.occurs_iff.2 earliest.present)
      exact .inr ⟨before, marker, behind, earliest, first⟩

/-- A marked page stays as it is only under a block that is its own marker. -/
theorem inject_eq_page_iff (page : String) (markers : List String) (block : String) :
    inject page markers block = page ↔ Unmarked page markers ∨ Earliest page markers block := by
  rcases unmarked_or_exists_first page markers with
    missing | ⟨before, marker, behind, earliest, first⟩
  · exact iff_of_true (inject_of_unmarked missing block) (.inl missing)
  · have marked : ¬Unmarked page markers := by
      intro missing
      obtain ⟨tried, later, rfl, -⟩ := earliest.listed
      obtain ⟨front, back, here⟩ := earliest.present
      exact missing marker (by simp) earliest.nonempty front back here
    rw [inject_of_earliest earliest first, or_iff_right marked]
    constructor
    · intro same
      have letters := congrArg String.toList (same.trans first.split)
      simp only [String.toList_append] at letters
      have equal : block = marker :=
        String.toList_inj.1 (List.append_cancel_left (List.append_cancel_right letters))
      exact equal ▸ earliest
    · intro own
      rw [own.unique earliest]
      exact first.split.symm

/-- **Where a block goes.** A page that contains none of the markers stays as it is. Any other
page is parted at the first place of its earliest marker, the block comes in between, and
everything else stays. That the page is the same afterwards means that there is no marker, or
that the block is the marker itself. -/
theorem inject_eq_iff (page : String) (markers : List String) (block : String) :
    (∀ document, inject page markers block = document ↔
      Unmarked page markers ∧ document = page ∨
        ∃ before marker behind, Earliest page markers marker ∧
          FirstAt marker page before behind ∧ document = before ++ block ++ behind) ∧
    (inject page markers block = page ↔
      Unmarked page markers ∨ Earliest page markers block) := by
  refine ⟨fun document => ⟨?_, ?_⟩, inject_eq_page_iff page markers block⟩
  · rintro rfl
    rcases unmarked_or_exists_first page markers with
      missing | ⟨before, marker, behind, earliest, first⟩
    · exact .inl ⟨missing, inject_of_unmarked missing block⟩
    · exact .inr ⟨before, marker, behind, earliest, first,
        inject_of_earliest earliest first block⟩
  · rintro (⟨missing, rfl⟩ | ⟨before, marker, behind, earliest, first, rfl⟩)
    · exact inject_of_unmarked missing block
    · exact inject_of_earliest earliest first block

/-- The second marker wins over the third, though it stands behind it, and the empty one counts
for nothing. Of its two places, which overlap, it is the first that is taken. -/
example : inject "<<b" ["", "<b", "<"] "X" = "<X" ∧ inject "aaab" ["aa", "b"] "X" = "Xab" := by
  decide

end Document

end WebPreview
