import Mathlib.Data.List.Basic
import WebPreview.Proofs.Text.Occurrence

/-! # Marks in a text

A mark is a pattern whose first character does not come again in it, as the angle bracket of a
tag. Where that character starts a new piece of a text, no mark reaches over from the piece in
front of it, so a mark that occurs in the whole occurs in one of the pieces
(`WebPreview.Text.infix_append_iff_of_starts`). A split at a mark therefore falls where the mark
was written if it occurs in nothing that was written in front of it, or behind it
(`WebPreview.Text.splitFirst?_of_not_infix`, `WebPreview.Text.splitLast?_of_not_infix`).
-/

namespace WebPreview.Text

variable {o c : Char} {p pat a b : List Char}

/-- A pattern occurs exactly if it stands inside the text. -/
theorem occurs_iff_infix {pat text : String} :
    occurs pat text = true ↔ pat.toList <:+: text.toList := by
  rw [occurs_iff]
  constructor
  · rintro ⟨before, behind, rfl⟩
    refine ⟨before.toList, behind.toList, ?_⟩
    rw [String.toList_append, String.toList_append]
  · rintro ⟨before, behind, whole⟩
    refine ⟨String.ofList before, String.ofList behind, String.toList_inj.1 ?_⟩
    rw [String.toList_append, String.toList_append, String.toList_ofList, String.toList_ofList,
      whole]

/-- A pattern does not occur exactly if it stands nowhere inside the text. -/
theorem occurs_eq_false_iff {pat text : String} :
    occurs pat text = false ↔ ¬pat.toList <:+: text.toList := by
  rw [← Bool.not_eq_true, occurs_iff_infix]

/-- A pattern at the front does not reach past a character that does not occur in it. -/
theorem prefix_append_cons_iff (absent : c ∉ pat) : pat <+: a ++ c :: b ↔ pat <+: a := by
  constructor
  · intro reach
    rcases List.prefix_or_prefix_of_prefix reach (List.prefix_append a (c :: b)) with short | long
    · exact short
    · obtain ⟨tail, rfl⟩ := long
      rw [List.prefix_append_right_inj] at reach
      cases tail with
      | nil => exact ⟨[], by rw [List.append_nil, List.append_nil]⟩
      | cons d tail =>
          obtain ⟨rfl, -⟩ := List.cons_prefix_cons.1 reach
          exact absurd (List.mem_append_right _ List.mem_cons_self) absent
  · exact List.prefix_append_of_prefix

/-- A pattern does not reach over a character that it does not have. -/
theorem infix_append_cons_iff_of_not_mem (absent : c ∉ pat) :
    pat <:+: a ++ c :: b ↔ pat <:+: a ∨ pat <:+: b := by
  rw [List.infix_append_iff]
  constructor
  · rintro (inside | inside | ⟨head, tail, rfl, left, right⟩)
    · exact .inl inside
    · rcases List.infix_cons_iff.1 inside with here | behind
      · cases pat with
        | nil => exact .inl (List.nil_infix)
        | cons d pat =>
            obtain ⟨rfl, -⟩ := List.cons_prefix_cons.1 here
            exact absurd List.mem_cons_self absent
      · exact .inr behind
    · cases tail with
      | nil =>
          rw [List.append_nil]
          exact .inl left.isInfix
      | cons d tail =>
          obtain ⟨rfl, -⟩ := List.cons_prefix_cons.1 right
          exact absurd (List.mem_append_right _ List.mem_cons_self) absent
  · rintro (left | right)
    · exact .inl left
    · exact .inr (.inl (List.infix_cons right))

/-- A pattern does not reach into a text that lacks its first character. -/
theorem infix_append_iff_of_front (absent : o ∉ a) : o :: p <:+: a ++ b ↔ o :: p <:+: b := by
  rw [List.infix_append_iff]
  constructor
  · rintro (inside | inside | ⟨head, tail, whole, left, right⟩)
    · exact absurd (inside.subset List.mem_cons_self) absent
    · exact inside
    · cases head with
      | nil =>
          rw [whole]
          exact right.isInfix
      | cons d head =>
          obtain ⟨rfl, -⟩ := List.cons.inj whole
          exact absurd (left.subset List.mem_cons_self) absent
  · exact fun inside => .inr (.inl inside)

/-- A pattern does not reach into a text that lacks its last character. -/
theorem infix_append_iff_of_end (absent : c ∉ b) :
    pat ++ [c] <:+: a ++ b ↔ pat ++ [c] <:+: a := by
  have reversed : c ∉ b.reverse := fun inside => absent (List.mem_reverse.1 inside)
  have turned : (pat ++ [c]).reverse <:+: b.reverse ++ a.reverse ↔
      (pat ++ [c]).reverse <:+: a.reverse := by
    rw [List.reverse_append]
    exact infix_append_iff_of_front reversed
  rwa [← List.reverse_append, List.reverse_infix, List.reverse_infix] at turned

/-- A mark does not reach into a text that starts with the mark's first character, or is empty. -/
theorem infix_append_iff_of_starts (once : o ∉ p) (starts : ∀ d ∈ b.head?, d = o) :
    o :: p <:+: a ++ b ↔ o :: p <:+: a ∨ o :: p <:+: b := by
  rw [List.infix_append_iff]
  constructor
  · rintro (inside | inside | ⟨head, tail, whole, left, right⟩)
    · exact .inl inside
    · exact .inr inside
    · cases head with
      | nil =>
          rw [whole]
          exact .inr right.isInfix
      | cons d head =>
          rw [List.cons_append, List.cons.injEq] at whole
          obtain ⟨rfl, rfl⟩ := whole
          cases tail with
          | nil =>
              rw [List.append_nil]
              exact .inl left.isInfix
          | cons e tail =>
              obtain ⟨more, rfl⟩ := right
              obtain rfl : e = o := starts e rfl
              exact absurd (List.mem_append_right _ List.mem_cons_self) once
  · rintro (left | right)
    · exact .inl left
    · exact .inr (.inl right)

/-- A mark does not reach over a text that neither starts nor ends it and that has some character
it lacks. -/
theorem infix_between_iff {sep : List Char} (front : o ∉ sep) (ends : c ∉ sep)
    (parted : ∃ d ∈ sep, d ∉ o :: (p ++ [c])) :
    o :: (p ++ [c]) <:+: a ++ sep ++ b ↔ o :: (p ++ [c]) <:+: a ∨ o :: (p ++ [c]) <:+: b := by
  obtain ⟨d, inside, absent⟩ := parted
  obtain ⟨s, t, rfl⟩ := List.append_of_mem inside
  rw [List.mem_append, not_or, List.mem_cons, not_or] at front ends
  have left : (o :: p) ++ [c] <:+: a ++ s ↔ (o :: p) ++ [c] <:+: a :=
    infix_append_iff_of_end ends.1
  have right : o :: (p ++ [c]) <:+: t ++ b ↔ o :: (p ++ [c]) <:+: b :=
    infix_append_iff_of_front front.2.2
  have split : a ++ (s ++ d :: t) ++ b = (a ++ s) ++ d :: (t ++ b) := by
    simp only [List.append_assoc, List.cons_append]
  rw [List.cons_append] at left
  rw [split, infix_append_cons_iff_of_not_mem absent, left, right]

/-- The text in front of the first occurrence has none. -/
theorem not_infix_of_splitFirst? {text : List Char} (split : splitFirst? pat text = some (a, b))
    (something : pat ≠ []) : ¬pat <:+: a := by
  rintro ⟨x, y, rfl⟩
  obtain ⟨rfl, least⟩ := splitFirst?_eq_some_iff.1 split
  have bound := least x (y ++ pat ++ b) (by simp only [List.append_assoc])
  have some := List.length_pos_iff.2 something
  simp only [List.length_append] at bound
  omega

/-- The first occurrence of a pattern is where it was written, if none ends further in front. -/
theorem splitFirst?_append (absent : ¬pat <:+: a ++ pat.dropLast) (b : List Char) :
    splitFirst? pat (a ++ pat ++ b) = some (a, b) := by
  refine splitFirst?_eq_some_iff.2 ⟨rfl, fun x y same => ?_⟩
  by_contra earlier
  have first : x ++ pat <+: a ++ pat ++ b := ⟨y, same.symm⟩
  have shorter : a ++ pat.dropLast <+: a ++ pat ++ b := by
    rw [List.append_assoc, List.prefix_append_right_inj]
    exact (List.dropLast_prefix pat).trans (List.prefix_append pat b)
  have ends : (x ++ pat).length ≤ (a ++ pat.dropLast).length := by
    simp only [List.length_append, List.length_dropLast]
    omega
  have inside : x ++ pat <+: a ++ pat.dropLast :=
    List.prefix_of_prefix_length_le first shorter ends
  exact absurd ((List.suffix_append x pat).isInfix.trans inside.isInfix) absent

/-- The first occurrence of a mark is where it was written. -/
theorem splitFirst?_of_not_infix (once : o ∉ p) (absent : ¬o :: p <:+: a) (b : List Char) :
    splitFirst? (o :: p) (a ++ (o :: p) ++ b) = some (a, b) := by
  apply splitFirst?_append
  have starts : ∀ d ∈ (o :: p).dropLast.head?, d = o := by
    cases p with
    | nil => nofun
    | cons e p =>
        intro d first
        exact (Option.some.inj first).symm
  rw [infix_append_iff_of_starts once starts, not_or]
  refine ⟨absent, fun inside => ?_⟩
  have bound := inside.length_le
  rw [List.length_dropLast, List.length_cons] at bound
  omega

/-- The last occurrence of a mark is where it was written. -/
theorem splitLast?_of_not_infix (once : o ∉ p) (absent : ¬o :: p <:+: b) (a : List Char) :
    splitLast? (o :: p) (a ++ (o :: p) ++ b) = some (a, b) := by
  have reversed : ¬p.reverse ++ [o] <:+: b.reverse ++ (p.reverse ++ [o]).dropLast := by
    have once : o ∉ p.reverse := fun inside => once (List.mem_reverse.1 inside)
    rw [List.dropLast_concat, infix_append_iff_of_end once, ← List.reverse_cons,
      List.reverse_infix]
    exact absent
  have split := splitFirst?_append reversed a.reverse
  rw [splitLast?, List.reverse_append, List.reverse_append, List.reverse_cons,
    ← List.append_assoc, split]
  simp only [Option.map_some, List.reverse_reverse]

end WebPreview.Text
