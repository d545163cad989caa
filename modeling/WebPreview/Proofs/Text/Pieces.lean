import WebPreview.Text.Find

/-! # Pieces between separators

A text split at a character falls into pieces that the character joins again
(`WebPreview.Text.splitOnChar_append_cons`), and splitting at one of two characters
after the other has been replaced by it splits at both
(`WebPreview.Text.splitOnChar_map`).
-/

namespace WebPreview.Text

variable {sep : Char}

/-- A split has at least one piece. -/
theorem splitOnChar_ne_nil (sep : Char) (cs : List Char) : splitOnChar sep cs ≠ [] := by
  cases cs with
  | nil => simp [splitOnChar]
  | cons c cs =>
      unfold splitOnChar
      split
      · simp
      · split <;> simp

private theorem splitOnChar_cons_self (sep : Char) (cs : List Char) :
    splitOnChar sep (sep :: cs) = [] :: splitOnChar sep cs := by
  rw [splitOnChar]
  split
  · next nothing => exact absurd nothing (splitOnChar_ne_nil sep cs)
  · next whole => rw [if_pos rfl, whole]

/-- A character that is no separator goes to the first piece. -/
theorem splitOnChar_cons_of_ne {c : Char} {cs piece : List Char} {pieces : List (List Char)}
    (other : c ≠ sep) (split : splitOnChar sep cs = piece :: pieces) :
    splitOnChar sep (c :: cs) = (c :: piece) :: pieces := by
  simp only [splitOnChar, split, other, ↓reduceIte]

/-- A separator parts a text into what is in front of it and what is behind it. -/
theorem splitOnChar_append_cons (sep : Char) (front behind : List Char) :
    splitOnChar sep (front ++ sep :: behind) = splitOnChar sep front ++ splitOnChar sep behind := by
  induction front with
  | nil => exact splitOnChar_cons_self sep behind
  | cons c front ih =>
      by_cases same : c = sep
      · subst same
        rw [List.cons_append, splitOnChar_cons_self, splitOnChar_cons_self, ih, List.cons_append]
      · obtain ⟨piece, pieces, whole⟩ := List.exists_cons_of_ne_nil (splitOnChar_ne_nil sep front)
        rw [whole, List.cons_append] at ih
        rw [List.cons_append, splitOnChar_cons_of_ne same ih, splitOnChar_cons_of_ne same whole,
          List.cons_append]

/-- Replacing one character by the separator splits every piece further. -/
theorem splitOnChar_map (old sep : Char) (cs : List Char) :
    splitOnChar sep (cs.map fun c => if c = old then sep else c) =
      (splitOnChar sep cs).flatMap (splitOnChar old) := by
  induction cs with
  | nil => rfl
  | cons c cs ih =>
      obtain ⟨piece, pieces, whole⟩ := List.exists_cons_of_ne_nil (splitOnChar_ne_nil sep cs)
      obtain ⟨first, rest, inner⟩ := List.exists_cons_of_ne_nil (splitOnChar_ne_nil old piece)
      rw [whole, List.flatMap_cons, inner, List.cons_append] at ih
      rw [List.map_cons]
      by_cases separates : c = sep
      · subst separates
        rw [ite_self, splitOnChar_cons_self, splitOnChar_cons_self, ih, whole, List.flatMap_cons,
          List.flatMap_cons, inner]
        rfl
      · rw [splitOnChar_cons_of_ne separates whole, List.flatMap_cons]
        by_cases replaced : c = old
        · subst replaced
          rw [if_pos rfl, splitOnChar_cons_self, ih, splitOnChar_cons_self, inner]
          rfl
        · rw [if_neg replaced, splitOnChar_cons_of_ne separates ih,
            splitOnChar_cons_of_ne replaced inner]
          rfl

end WebPreview.Text
