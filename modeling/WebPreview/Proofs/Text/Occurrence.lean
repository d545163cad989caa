import WebPreview.Text.Find

/-! # First occurrences of one string in another -/

/-- Two surroundings that come to the same around every text are the same. -/
theorem List.eq_of_forall_append_between {A B C D : List Char}
    (same : ∀ code, A ++ code ++ B = C ++ code ++ D) : A = C ∧ B = D := by
  -- What the longer of the two heads has more would have to move past every `code`.
  have settled {E D : List Char} (moves : ∀ code, code ++ (E ++ D) = E ++ code ++ D) : E = [] := by
    cases E with
    | nil => rfl
    | cons e rest =>
        by_cases isA : e = 'a'
        · have moved := moves ['b']
          simp [isA] at moved
        · have moved := moves ['a']
          simp only [List.cons_append, List.nil_append, List.cons.injEq] at moved
          exact absurd moved.1.symm isA
  have whole := same []
  rw [List.append_nil, List.append_nil] at whole
  rcases List.append_eq_append_iff.1 whole with ⟨E, rfl, rfl⟩ | ⟨E, rfl, rfl⟩
  · have none : E = [] := settled fun code => by
      have moved := same code
      simp only [List.append_assoc, List.append_cancel_left_eq] at moved ⊢
      exact moved
    simp [none]
  · have none : E = [] := settled fun code => by
      have moved := (same code).symm
      simp only [List.append_assoc, List.append_cancel_left_eq] at moved ⊢
      exact moved
    simp [none]

namespace WebPreview.Text

/-- The text is `before`, the pattern and `behind`, and no occurrence of the pattern
starts further in front. -/
structure FirstAt (pat text before behind : String) : Prop where
  split : text = before ++ pat ++ behind
  least : ∀ a b, text = a ++ pat ++ b → before.length ≤ a.length

/-- The first occurrence is where the text is split. -/
theorem firstAt_iff {pat text before behind : String} :
    FirstAt pat text before behind ↔
      splitFirst? pat.toList text.toList = some (before.toList, behind.toList) := by
  rw [splitFirst?_eq_some_iff]
  constructor
  · rintro ⟨split, least⟩
    refine ⟨by rw [split, String.toList_append, String.toList_append], fun a b other => ?_⟩
    have elsewhere : text = String.ofList a ++ pat ++ String.ofList b := by
      apply String.toList_inj.1
      rw [other, String.toList_append, String.toList_append, String.toList_ofList,
        String.toList_ofList]
    have bound := least _ _ elsewhere
    rwa [String.length_ofList, ← String.length_toList] at bound
  · rintro ⟨split, least⟩
    refine ⟨?_, fun a b other => ?_⟩
    · apply String.toList_inj.1
      rw [split, String.toList_append, String.toList_append]
    · have bound := least a.toList b.toList (by
        rw [other, String.toList_append, String.toList_append])
      rwa [String.length_toList, String.length_toList] at bound

private theorem splitFirst?_isSome_of_occurrence (pat a b : List Char) :
    (splitFirst? pat (a ++ pat ++ b)).isSome := by
  induction a with
  | nil =>
      have here : after? pat (pat ++ b) = some b := after?_eq_some_iff.2 rfl
      cases text : pat ++ b with
      | nil =>
          obtain ⟨rfl, rfl⟩ := List.append_eq_nil_iff.1 text
          rfl
      | cons c cs =>
          rw [text] at here
          rw [List.nil_append, text]
          simp [splitFirst?, here]
  | cons c a ih =>
      rw [List.cons_append, List.cons_append]
      unfold splitFirst?
      split
      · rfl
      · rw [Option.isSome_map]
        exact ih

/-- A pattern that occurs has a first occurrence. -/
theorem exists_firstAt {pat text : String} (found : occurs pat text = true) :
    ∃ before behind, FirstAt pat text before behind := by
  obtain ⟨⟨a, b⟩, split⟩ := Option.isSome_iff_exists.1 found
  refine ⟨String.ofList a, String.ofList b, firstAt_iff.2 ?_⟩
  rw [split, String.toList_ofList, String.toList_ofList]

/-- A pattern occurs exactly if the text has it between two others. -/
theorem occurs_iff {pat text : String} :
    occurs pat text = true ↔ ∃ before behind, text = before ++ pat ++ behind := by
  constructor
  · intro found
    obtain ⟨before, behind, first⟩ := exists_firstAt found
    exact ⟨before, behind, first.split⟩
  · rintro ⟨before, behind, rfl⟩
    unfold occurs
    rw [String.toList_append, String.toList_append]
    exact splitFirst?_isSome_of_occurrence _ _ _

/-- The first occurrence is the one that is replaced. -/
theorem FirstAt.replaceFirst {pat text before behind : String}
    (first : FirstAt pat text before behind) (block : String) :
    Text.replaceFirst pat block text = before ++ block ++ behind := by
  unfold Text.replaceFirst
  rw [firstAt_iff.1 first]
  simp only [String.ofList_append, String.ofList_toList]

/-- Of two occurrences that stand apart, the one behind has the other in front of it. -/
theorem split_of_apart {a s b c t d : List Char} (same : a ++ s ++ b = c ++ t ++ d)
    (apart : a.length + s.length ≤ c.length) :
    c = a ++ s ++ c.drop (a.length + s.length) ∧
      b = c.drop (a.length + s.length) ++ t ++ d := by
  rw [← List.length_append] at apart ⊢
  have inside : a ++ s <+: c :=
    List.prefix_of_prefix_length_le ⟨b, same⟩ ⟨t ++ d, (List.append_assoc c t d).symm⟩ apart
  obtain ⟨m, rfl⟩ := inside
  rw [List.drop_left]
  simp only [List.append_assoc, List.append_cancel_left_eq] at same ⊢
  exact ⟨trivial, same⟩

end WebPreview.Text
