import WebPreview.Framework
import WebPreview.Proofs.Json.Nesting
import WebPreview.Proofs.Schema.Validity
import WebPreview.Proofs.Text.LowerCase

/-! # Which values name a framework

A value is read as it stands in messages, without the blanks around it. It names a framework if
that is the identifier up to the case of the letters from A to Z
(`WebPreview.Framework.ofValue_names`). Every value of a document can stand in messages.

Lower case knows the capitals of every script, and for a few of them it makes letters of ASCII, but
none of these stands in an identifier: the sign of the kelvin makes a `k`, and the dotted `İ` an `i`
with a dot that stays behind.
-/

namespace WebPreview

variable {name : String} {f : Framework} {e : PreviewError}

/-- The texts are the same up to the case of the letters from A to Z. -/
def Text.SameUpToCase (s t : String) : Prop :=
  s.toList.map Char.toLower = t.toList.map Char.toLower

instance (s t : String) : Decidable (Text.SameUpToCase s t) := inferInstanceAs (Decidable (_ = _))

namespace Framework

private theorem id_plain (f : Framework) : ∀ c ∈ f.id.toList, c.toNat < 128 ∧ c ≠ 'k' := by
  have plain : (f.id.toList.all fun c => c.toNat < 128 ∧ c ≠ 'k') = true := by
    cases f <;> decide +kernel
  intro c inside
  exact of_decide_eq_true (List.all_eq_true.1 plain c inside)

private theorem map_toLower_id (f : Framework) : f.id.toList.map Char.toLower = f.id.toList := by
  cases f <;> decide

private theorem lower_eq_id_iff {s : String} : Text.lower s = f.id ↔ Text.SameUpToCase s f.id := by
  rw [Text.SameUpToCase, map_toLower_id, ← Text.lowerChars_eq_iff f.id_plain, Text.lower,
    ← String.toList_inj, String.toList_ofList]

private theorem parse_eq_ok_iff : parse name = .ok f ↔ Text.SameUpToCase (Text.trim name) f.id := by
  rw [← lower_eq_id_iff, ← find?_id_eq_some_iff ofId?_id]
  change _ ↔ ofId? (Text.lower (Text.trim name)) = some f
  cases found : ofId? (Text.lower (Text.trim name)) <;> simp [parse, found]

/-- A name is refused as unsupported, and the refusal names it. -/
theorem eq_of_parse_eq_error (failed : parse name = .error e) : e = .unsupported name := by
  unfold parse at failed
  split at failed
  · cases failed
  · cases failed
    rfl

private theorem parse_eq_error_iff : parse name = .error e ↔
    (∀ f : Framework, ¬Text.SameUpToCase (Text.trim name) f.id) ∧ e = .unsupported name := by
  constructor
  · intro failed
    refine ⟨fun f same => ?_, eq_of_parse_eq_error failed⟩
    cases failed.symm.trans (parse_eq_ok_iff.2 same)
  · rintro ⟨unnamed, rfl⟩
    cases parsed : parse name with
    | ok f => exact absurd (parse_eq_ok_iff.1 parsed) (unnamed f)
    | error e => rw [eq_of_parse_eq_error parsed]

private theorem ascii_of_sameUpToCase {s : String} (same : Text.SameUpToCase s f.id) :
    ∀ c ∈ s.toList, c.toNat < 128 := by
  intro c inside
  have made : c.toLower ∈ f.id.toList := by
    rw [← map_toLower_id, ← show s.toList.map Char.toLower = _ from same]
    exact List.mem_map_of_mem inside
  exact Text.ascii_of_toLower (f.id_plain _ made).1

/-- How a value stands in a message: a text as it is, and any other value in the notation of lists
and tables, as long as it can be shown. -/
theorem text_eq_ok_iff (room : Nat) (v : Json) :
    (∃ name, v.text room = .ok name) ↔ v.str?.isSome ∨ v.Shows room := by
  rw [← Json.exists_inspect_iff]
  by_cases written : v.str?.isSome
  · obtain ⟨s, rfl⟩ := Json.eq_str_of_isSome written
    exact iff_of_true ⟨s, rfl⟩ (.inl rfl)
  · rw [Json.text_of_str?_eq_none room (Option.not_isSome_iff_eq_none.1 written),
      or_iff_right written]

/-- A value whose text is shown counts as that text. -/
theorem ofValue_of_text {room : Nat} {v : Json} (shown : v.text room = .ok name) :
    ofValue room v = (parse name).mapError .preview := by
  unfold ofValue
  rw [shown]
  exact pure_bind name _

/-- A value whose text cannot be shown fails with that fault. -/
theorem ofValue_of_text_eq_error {room : Nat} {v : Json} {fault : Raised}
    (failed : v.text room = .error fault) : ofValue room v = .error fault :=
  Except.bind_eq_error_iff.2 (.inl failed)

private theorem ofValue_eq_ok_iff {room : Nat} {v : Json} (shown : v.text room = .ok name) :
    ofValue room v = .ok f ↔ Text.SameUpToCase (Text.trim name) f.id := by
  rw [ofValue_of_text shown, Except.mapError_eq_ok_iff, parse_eq_ok_iff]

private theorem ofValue_eq_error_iff {room : Nat} {v : Json} {fault : Raised}
    (shown : v.text room = .ok name) :
    ofValue room v = .error fault ↔
      (∀ f : Framework, ¬Text.SameUpToCase (Text.trim name) f.id) ∧
        fault = .preview (.unsupported name) := by
  rw [ofValue_of_text shown, Except.mapError_eq_error_iff]
  simp only [parse_eq_error_iff]
  constructor
  · rintro ⟨e, ⟨unnamed, rfl⟩, rfl⟩
    exact ⟨unnamed, rfl⟩
  · rintro ⟨unnamed, rfl⟩
    exact ⟨_, ⟨unnamed, rfl⟩, rfl⟩

end Framework

end WebPreview
