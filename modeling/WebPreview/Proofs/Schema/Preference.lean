import Mathlib.Data.List.MinMax
import WebPreview.Proofs.Schema.RoundTrip
import WebPreview.Proofs.Schema.Variants

/-! # Outcomes by the fields that are set

An outcome has two shapes. Both may leave out their truth value and take no notice of fields that
they do not have, so some values are read by either. Then the reading counts that sets more
fields, those of the error among them, and of two that set as many the first
(`WebPreview.Outcome.preferred`).

Counting comes to a simple rule (`WebPreview.Outcome.decode_tells_apart`): a value with a page is
a document if its truth value says so, and without a truth value if it carries no error. All else
that is read is a failure.
-/

/-- A number that equals one does not equal zero. -/
theorem Float.ne_zero_of_eq_one {x : Float} (one : (x == 1.0) = true) : (x == 0.0) = false := by
  obtain ⟨m, e, positive, unpacked⟩ : ∃ m e positive,
      (1.0 : Float).toModel.unpack = .finite .positive m e positive := ⟨_, _, _, rfl⟩
  change x.toModel.unpack.beq (1.0 : Float).toModel.unpack = true at one
  change x.toModel.unpack.beq (.zero .positive) = false
  rw [unpacked] at one
  cases value : x.toModel.unpack with
  | zero sign =>
      rw [value] at one
      cases one
  | infinity sign => cases sign <;> rfl
  | notANumber => rfl
  | finite sign mantissa exponent => cases sign <;> rfl

namespace WebPreview

open Schema

namespace Json

/-- The value is true, or the number that stands for it. -/
inductive IsTrue : Json → Prop
  | bool : IsTrue (.bool true)
  | int : IsTrue (.int 1)
  | float {x : Float} (one : (x == 1.0) = true) : IsTrue (.float x)

private theorem equalsInt_one_iff {v : Json} : v.equalsInt 1 = true ↔ v.IsTrue := by
  constructor
  · intro one
    cases v with
    | bool b =>
        cases b with
        | true => exact .bool
        | false => cases one
    | int n =>
        obtain rfl : n = 1 := eq_of_beq one
        exact .int
    | float x => exact .float one
    | _ => cases one
  · intro isTrue
    cases isTrue with
    | bool => rfl
    | int => rfl
    | float one => exact one

/-- No value stands for both truth values. -/
theorem IsTrue.equalsInt_zero {v : Json} (isTrue : v.IsTrue) : v.equalsInt 0 = false := by
  cases isTrue with
  | bool => rfl
  | int => rfl
  | float one => exact Float.ne_zero_of_eq_one one

/-- How many of the named fields the object has. -/
def countFields (v : Json) (names : List String) : Nat :=
  names.countP fun name => (v.field? name).isSome

end Json

/-- How many fields the reading of a reason sets. -/
def Failure.fieldsSet (v : Json) : Nat := v.countFields ["message", "file"]

/-- A reason that is read sets its message at least. -/
theorem Failure.Says.fieldsSet_pos {v : Json} {reason : Failure} (said : reason.Says v) :
    0 < fieldsSet v := by
  rw [fieldsSet, Json.countFields, List.countP_pos_iff]
  exact ⟨"message", by simp, by rw [said.message]; rfl⟩

namespace Outcome

/-- How many fields the reading as a document sets. -/
def documentFieldsSet (v : Json) : Nat := v.countFields ["success", "html"]

/-- How many fields the reading as a failure sets, those of its error among them. -/
def failureFieldsSet (v : Json) : Nat :=
  v.countFields ["success", "error"] + Failure.fieldsSet (v.field "error")

/-- The readings of a value, that as a document first, each with how many fields it sets. -/
def readings (v : Json) : List (Outcome × Nat) :=
  (decodeSuccess v).toOption.toList.map (·, documentFieldsSet v) ++
    (decodeFailure v).toOption.toList.map (·, failureFieldsSet v)

/-- The first of the readings that set the most fields. -/
def preferred (v : Json) : Option Outcome := ((readings v).argmax Prod.snd).map Prod.fst

variable {v : Json}

/-- Where both shapes read a value, the failure sets more fields: an error for the page, and a
message in it. -/
theorem documentFieldsSet_lt {html : String} {reason : Failure}
    (page : v.field? "html" = some (.str html)) (said : SaysFailure v reason) :
    documentFieldsSet v < failureFieldsSet v := by
  obtain ⟨error, carried, told⟩ := said.error
  have message : 0 < Failure.fieldsSet (v.field "error") := by
    rw [Json.field, carried]
    exact told.fieldsSet_pos
  simp only [documentFieldsSet, failureFieldsSet, Json.countFields, List.countP_cons,
    List.countP_nil, page, carried, Option.isSome_some, ↓reduceIte]
  omega

/-- **Preference.** A value is read as the first of the readings that set the most fields. -/
theorem decode_eq_ok_iff_preferred {outcome : Outcome} :
    decode v = .ok outcome ↔ preferred v = some outcome := by
  rw [decode_eq_ok_iff, preferred, readings]
  cases failed : decodeFailure v with
  | error why =>
      cases made : decodeSuccess v with
      | error why' => simp [Except.toOption]
      | ok document => simp [Except.toOption]
  | ok failure =>
      cases made : decodeSuccess v with
      | error why => simp [Except.toOption]
      | ok document =>
          obtain ⟨html, -, -, page⟩ := decodeSuccess_eq_ok_iff.1 made
          obtain ⟨reason, -, said⟩ := decodeFailure_eq_ok_iff.1 failed
          have more := documentFieldsSet_lt page said
          simp [Except.toOption, List.argmax_cons, more]

/-- The truth value is there and says that there is a document. -/
def SaysTrue (v : Json) : Prop := ∃ flag, v.field? "success" = some flag ∧ flag.IsTrue

/-- The object carries an error from which a reason can be read. -/
def CarriesError (v : Json) : Prop := ∃ error, v.field? "error" = some error ∧ ∃ reason : Failure,
  reason.Says error

/-- The object has a page, and its truth value says that this is the outcome, or is left out and
no error speaks against it. -/
structure CountsAsDocument (v : Json) : Prop where
  page : ∃ html, v.field? "html" = some (.str html)
  unfailed : SaysTrue v ∨ v.field? "success" = none ∧ ¬CarriesError v

private theorem flagAllows_true_iff :
    FlagAllows v true ↔ v.field? "success" = none ∨ SaysTrue v := by
  simp only [FlagAllows, ↓reduceIte, Json.equalsInt_one_iff, SaysTrue]

private theorem SaysTrue.not_flagAllows (granted : SaysTrue v) : ¬FlagAllows v false := by
  obtain ⟨flag, given, isTrue⟩ := granted
  rintro (absent | ⟨other, given', isFalse⟩)
  · rw [given] at absent
    cases absent
  · rw [given, Option.some.injEq] at given'
    subst given'
    exact Bool.false_ne_true (isTrue.equalsInt_zero.symm.trans isFalse)

private theorem saysDocument_iff {html : String} :
    SaysDocument v html ↔ CountsAsDocument v ∧ v.field? "html" = some (.str html) := by
  constructor
  · rintro ⟨flag, page, unfailed⟩
    refine ⟨⟨⟨html, page⟩, ?_⟩, page⟩
    rcases flagAllows_true_iff.1 flag with absent | granted
    · refine .inr ⟨absent, ?_⟩
      rintro ⟨error, carried, reason, told⟩
      exact unfailed reason ⟨.inl absent, error, carried, told⟩
    · exact .inl granted
  · rintro ⟨⟨-, granted | ⟨absent, free⟩⟩, page⟩
    · exact ⟨flagAllows_true_iff.2 (.inr granted), page,
        fun reason said => granted.not_flagAllows said.flag⟩
    · refine ⟨.inl absent, page, fun reason said => free ?_⟩
      obtain ⟨error, carried, told⟩ := said.error
      exact ⟨error, carried, reason, told⟩

/-- **A failure is never read as a document.** Of the values that are read as an outcome, by the
shape that sets more of its fields, those that count as a document are one, with their page, and
all others are failures. What an outcome is written as reads back as that outcome. -/
theorem decode_tells_apart (v : Json) :
    (∀ outcome, decode v = .ok outcome ↔ preferred v = some outcome) ∧
      (∀ html, decode v = .ok (.success html) ↔
        CountsAsDocument v ∧ v.field? "html" = some (.str html)) ∧
      (∀ outcome, decode v = .ok outcome → ¬CountsAsDocument v →
        ∃ reason, outcome = .failure reason) ∧
      ∀ outcome, decode v = .ok outcome → decode outcome.toJson = .ok outcome := by
  have document (html : String) : decode v = .ok (.success html) ↔
      CountsAsDocument v ∧ v.field? "html" = some (.str html) := by
    rw [decode_eq_success_iff, saysDocument_iff]
  refine ⟨fun _ => decode_eq_ok_iff_preferred, document, ?_, fun outcome _ => decode_toJson outcome⟩
  intro outcome read other
  cases outcome with
  | success html => exact absurd ((document html).1 read).1 other
  | failure reason => exact ⟨reason, rfl⟩

/-- An object with a page and an error, and no truth value. -/
def pageWithError : Json :=
  .obj [("html", .str "<p>"), ("error", .obj [("message", .str "no"), ("line", .int 3)])]

/-- A page and an error together are a failure. -/
theorem decode_tells_apart_pageWithError :
    decode pageWithError = .ok (.failure ⟨"no", "unknown"⟩) ∧ ¬CountsAsDocument pageWithError ∧
      decode (failure ⟨"no", "unknown"⟩).toJson = .ok (.failure ⟨"no", "unknown"⟩) := by
  have read : decode pageWithError = .ok (.failure ⟨"no", "unknown"⟩) := rfl
  have other : ¬CountsAsDocument pageWithError := by
    intro counts
    have document := ((decode_tells_apart pageWithError).2.1 "<p>").2 ⟨counts, rfl⟩
    cases read.symm.trans document
  obtain ⟨reason, same⟩ := (decode_tells_apart pageWithError).2.2.1 _ read other
  cases same
  exact ⟨read, other, (decode_tells_apart pageWithError).2.2.2 _ read⟩

end Outcome

end WebPreview
