/-! # What results come to

A result that is made from another one is a value, or an error, exactly if the other one is and
what is made of it fits.
-/

namespace Except

variable {ε ε' α β : Type} {x : Except ε α} {a : α} {b : β} {e : ε}

/-- A sequence succeeds exactly if both of its steps do. -/
theorem bind_eq_ok_iff {f : α → Except ε β} :
    x >>= f = .ok b ↔ ∃ a, x = .ok a ∧ f a = .ok b := by
  cases x with
  | ok a => simp [bind, Except.bind]
  | error e => simp [bind, Except.bind]

/-- A sequence fails exactly if its first step fails, or its second one after a success. -/
theorem bind_eq_error_iff {f : α → Except ε β} :
    x >>= f = .error e ↔ x = .error e ∨ ∃ a, x = .ok a ∧ f a = .error e := by
  cases x with
  | ok a => simp [bind, Except.bind]
  | error e => simp [bind, Except.bind]

/-- A mapped result succeeds exactly with the image of a success. -/
theorem map_eq_ok_iff {f : α → β} : x.map f = .ok b ↔ ∃ a, x = .ok a ∧ f a = b := by
  cases x with
  | ok a => simp [Except.map]
  | error e => simp [Except.map]

/-- A mapped result keeps its error. -/
theorem map_eq_error_iff {f : α → β} : x.map f = .error e ↔ x = .error e := by
  cases x with
  | ok a => simp [Except.map]
  | error e => simp [Except.map]

/-- A result with its error mapped keeps its success. -/
theorem mapError_eq_ok_iff {f : ε → ε'} : x.mapError f = .ok a ↔ x = .ok a := by
  cases x with
  | ok b =>
      constructor <;> intro same <;> cases same <;> rfl
  | error e =>
      constructor <;> intro same <;> cases same

/-- A result with its error mapped fails exactly with the image of an error. -/
theorem mapError_eq_error_iff {f : ε → ε'} {e' : ε'} :
    x.mapError f = .error e' ↔ ∃ e, x = .error e ∧ f e = e' := by
  cases x with
  | ok a =>
      refine iff_of_false nofun ?_
      intro ⟨e, same, _⟩
      cases same
  | error e =>
      constructor
      · intro same
        exact ⟨e, rfl, Except.error.inj same⟩
      · intro ⟨e, same, sent⟩
        cases same
        exact congrArg Except.error sent

end Except
