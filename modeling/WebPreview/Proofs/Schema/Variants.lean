import WebPreview.Outcome.Codec
import WebPreview.Proofs.Schema.Validity

/-! # Documents and failures told apart

A value reads as a failure if its fields say one, and as a document if they say one and no
failure (`WebPreview.Outcome.decode_eq_failure_iff`,
`WebPreview.Outcome.decode_eq_success_iff`). No other value is an outcome.
-/

namespace WebPreview

open Schema Checked

namespace Failure

/-- The object has a text for a message and a text for a file, if it has a file at all. -/
structure Says (v : Json) (reason : Failure) : Prop where
  message : v.field? "message" = some (.str reason.message)
  file : v.field? "file" = some (.str reason.file) ∨
    v.field? "file" = none ∧ reason.file = unknownFile

private theorem decode_eq_ok_iff {v : Json} {reason : Failure} :
    decode v = .ok reason ↔ Says v reason := by
  cases v with
  | obj fields =>
      simp only [decode, Except.map_eq_ok_iff, Prod.exists, both_eq_ok_iff, required_eq_ok_iff,
        optional_eq_ok_iff, text_eq_ok_iff, exists_eq_right]
      constructor
      · rintro ⟨message, file, ⟨told, placed⟩, rfl⟩
        exact ⟨told, placed.symm⟩
      · rintro ⟨told, placed⟩
        exact ⟨reason.message, reason.file, ⟨told, placed.symm⟩, rfl⟩
  | _ =>
      refine iff_of_false ?_ fun said => nomatch said.message
      intro read
      cases read

end Failure

namespace Outcome

/-- The truth value that tells outcomes apart is left out or is this one. -/
def FlagAllows (v : Json) (expected : Bool) : Prop :=
  v.field? "success" = none ∨ ∃ flag, v.field? "success" = some flag ∧
    flag.equalsInt (if expected then 1 else 0) = true

/-- The object says a failure: its truth value allows one, and its error has a reason. -/
structure SaysFailure (v : Json) (reason : Failure) : Prop where
  flag : FlagAllows v false
  error : ∃ field, v.field? "error" = some field ∧ reason.Says field

/-- The object says a document and no failure. -/
structure SaysDocument (v : Json) (html : String) : Prop where
  flag : FlagAllows v true
  page : v.field? "html" = some (.str html)
  unfailed : ∀ reason, ¬SaysFailure v reason

private theorem decodeFlag_eq_ok_iff {v : Json} {expected : Bool} {u : Unit} :
    decodeFlag expected v = .ok u ↔ v.equalsInt (if expected then 1 else 0) = true := by
  by_cases same : v.equalsInt (if expected then 1 else 0) = true
  · simp only [decodeFlag, same, ↓reduceIte]
  · simp only [decodeFlag, same, ↓reduceIte, fail, reduceCtorEq]

private theorem flag_eq_ok_iff {v : Json} {expected : Bool} {u : Unit} :
    optional v "success" () (decodeFlag expected) = .ok u ↔ FlagAllows v expected := by
  rw [optional_eq_ok_iff]
  simp only [decodeFlag_eq_ok_iff, and_true, FlagAllows]

/-- The failure variant reads exactly what says a failure. -/
theorem decodeFailure_eq_ok_iff {v : Json} {outcome : Outcome} :
    decodeFailure v = .ok outcome ↔ ∃ reason, outcome = .failure reason ∧ SaysFailure v reason := by
  cases v with
  | obj fields =>
      simp only [decodeFailure, Except.map_eq_ok_iff, Prod.exists, both_eq_ok_iff, flag_eq_ok_iff,
        required_eq_ok_iff, Failure.decode_eq_ok_iff]
      constructor
      · rintro ⟨-, reason, ⟨flag, error⟩, rfl⟩
        exact ⟨reason, rfl, flag, error⟩
      · rintro ⟨reason, rfl, flag, error⟩
        exact ⟨(), reason, ⟨flag, error⟩, rfl⟩
  | _ =>
      refine iff_of_false (fun read => nomatch read) ?_
      rintro ⟨reason, -, -, field, present, -⟩
      cases present

/-- The success variant reads exactly a page with a flag that allows it. -/
theorem decodeSuccess_eq_ok_iff {v : Json} {outcome : Outcome} :
    decodeSuccess v = .ok outcome ↔ ∃ html, outcome = .success html ∧ FlagAllows v true ∧
      v.field? "html" = some (.str html) := by
  cases v with
  | obj fields =>
      simp only [decodeSuccess, Except.map_eq_ok_iff, Prod.exists, both_eq_ok_iff, flag_eq_ok_iff,
        required_eq_ok_iff, text_eq_ok_iff, exists_eq_right]
      constructor
      · rintro ⟨-, html, said, rfl⟩
        exact ⟨html, rfl, said⟩
      · rintro ⟨html, rfl, said⟩
        exact ⟨(), html, said, rfl⟩
  | _ =>
      refine iff_of_false (fun read => nomatch read) ?_
      rintro ⟨html, -, -, present⟩
      cases present

/-- The failure is tried first, and what reads as neither is refused. -/
theorem decode_eq_ok_iff {v : Json} {outcome : Outcome} :
    decode v = .ok outcome ↔ decodeFailure v = .ok outcome ∨
      (∀ other, decodeFailure v ≠ .ok other) ∧ decodeSuccess v = .ok outcome := by
  unfold decode
  cases failed : decodeFailure v with
  | ok other => simp
  | error why =>
      cases made : decodeSuccess v with
      | ok other => simp
      | error why' =>
          have refused : ∀ pair, both (below successName (.error why' : Checked Outcome))
              (below failureName (.error why : Checked Outcome)) ≠ .ok pair := by
            intro pair read
            have first := below_eq_ok_iff.1 (both_eq_ok_iff.1 read).1
            cases first
          simp only [Except.map_eq_ok_iff]
          refine iff_of_false ?_ (by simp)
          rintro ⟨pair, read, -⟩
          exact refused pair read

/-- A body is read as a document exactly if it says one. -/
theorem decode_eq_success_iff {v : Json} {html : String} :
    decode v = .ok (.success html) ↔ SaysDocument v html := by
  rw [decode_eq_ok_iff, decodeFailure_eq_ok_iff, decodeSuccess_eq_ok_iff]
  constructor
  · rintro (⟨reason, same, -⟩ | ⟨unfailed, page, same, flag, there⟩)
    · cases same
    · cases same
      refine ⟨flag, there, fun reason said => ?_⟩
      exact unfailed _ (decodeFailure_eq_ok_iff.2 ⟨reason, rfl, said⟩)
  · rintro ⟨flag, there, unfailed⟩
    refine .inr ⟨fun other read => ?_, html, rfl, flag, there⟩
    obtain ⟨reason, -, said⟩ := decodeFailure_eq_ok_iff.1 read
    exact unfailed reason said

/-- A body is read as a failure exactly if it says one. -/
theorem decode_eq_failure_iff {v : Json} {reason : Failure} :
    decode v = .ok (.failure reason) ↔ SaysFailure v reason := by
  rw [decode_eq_ok_iff, decodeFailure_eq_ok_iff, decodeSuccess_eq_ok_iff]
  constructor
  · rintro (⟨other, same, said⟩ | ⟨-, page, same, -⟩)
    · cases same
      exact said
    · cases same
  · intro said
    exact .inl ⟨reason, rfl, said⟩

end Outcome

end WebPreview
