import Mathlib.Data.List.Basic
import WebPreview.Text.Classes

/-! # Where lines end

A character that ends a line, and is no carriage return, parts a text into lines that do
not depend on one another (`WebPreview.Text.linesFrom_append_end`). So the last line of a
text is what follows the last of these characters, whatever stands before it.
-/

namespace WebPreview.Text

variable {c : Char} {line front behind tail : List Char}

/-- No character of the text ends a line. -/
def Unbroken (cs : List Char) : Prop := ∀ c ∈ cs, isLineEnd c = false

/-- A text is unbroken exactly if its first character ends no line and the rest is unbroken. -/
theorem unbroken_cons_iff : Unbroken (c :: tail) ↔ isLineEnd c = false ∧ Unbroken tail :=
  List.forall_mem_cons

/-- Two texts are unbroken together exactly if both are. -/
theorem unbroken_append_iff : Unbroken (front ++ tail) ↔ Unbroken front ∧ Unbroken tail :=
  List.forall_mem_append

/-- A text with no line end in it is unbroken. -/
theorem unbroken_of_all (all : tail.all (!isLineEnd ·) = true) : Unbroken tail := by
  intro c member
  have inside := List.all_eq_true.1 all c member
  rwa [Bool.not_eq_true'] at inside

private theorem linesFrom_cons_of_inside (inside : isLineEnd c = false) :
    linesFrom line (c :: behind) = linesFrom (c :: line) behind := by
  have other : c ≠ '\r' := by
    rintro rfl
    cases inside
  rw [linesFrom, inside]
  · rfl
  · intro cs same
    exact absurd same other

/-- A line end is by itself unless it is the first half of a pair. -/
theorem linesFrom_cons_of_end (ends : isLineEnd c = true)
    (single : c = '\r' → ∀ cs, behind ≠ '\n' :: cs) :
    linesFrom line (c :: behind) = line.reverse :: linesFrom [] behind := by
  rw [linesFrom, ends]
  · rfl
  · intro cs same
    exact single same cs

/-- What follows a line end starts a line of its own. -/
theorem linesFrom_append_end (ends : isLineEnd c = true) (single : c ≠ '\r')
    (line front behind : List Char) :
    linesFrom line (front ++ c :: behind) =
      linesFrom line (front ++ [c]) ++ linesFrom [] behind := by
  have parted (line behind : List Char) :
      linesFrom line (c :: behind) = line.reverse :: linesFrom [] behind :=
    linesFrom_cons_of_end ends fun same => absurd same single
  induction line, front using linesFrom.induct with
  | case1 line | case2 line =>
      rw [List.nil_append, List.nil_append, parted, parted]
      rfl
  | case3 line cs ih =>
      simp only [List.cons_append, linesFrom, ih]
  | case4 line d cs unpaired ended ih =>
      -- The end in front may be a carriage return that makes a pair with this one.
      by_cases pair : d = '\r' ∧ cs = [] ∧ c = '\n'
      · obtain ⟨rfl, rfl, rfl⟩ := pair
        simp only [List.cons_append, List.nil_append, linesFrom, List.isEmpty_nil, ↓reduceIte]
      · have apart (behind : List Char) : d = '\r' → ∀ xs, cs ++ c :: behind ≠ '\n' :: xs := by
          intro same xs paired
          cases cs with
          | nil => exact pair ⟨same, rfl, (List.cons.inj paired).1⟩
          | cons e cs => exact unpaired cs same (congrArg (· :: cs) (List.cons.inj paired).1)
        rw [List.cons_append, linesFrom_cons_of_end ended (apart behind), List.cons_append,
          linesFrom_cons_of_end ended (apart []), ih, List.cons_append]
  | case5 line d cs _ inside ih =>
      have inside := Bool.eq_false_iff.2 inside
      rw [List.cons_append, linesFrom_cons_of_inside inside, List.cons_append,
        linesFrom_cons_of_inside inside, ih]

private theorem linesFrom_append_of_unbroken (unbroken : Unbroken tail) (line behind : List Char) :
    linesFrom line (tail ++ behind) = linesFrom (tail.reverse ++ line) behind := by
  induction tail generalizing line with
  | nil => rfl
  | cons c tail ih =>
      rw [unbroken_cons_iff] at unbroken
      rw [List.cons_append, linesFrom_cons_of_inside unbroken.1, ih unbroken.2,
        List.reverse_cons, List.append_assoc, List.singleton_append]

/-- An unbroken text is one line. -/
theorem linesFrom_unbroken (unbroken : Unbroken tail) (something : tail ≠ []) :
    linesFrom [] tail = [tail] := by
  have whole := linesFrom_append_of_unbroken unbroken [] []
  rw [List.append_nil, List.append_nil] at whole
  rw [whole, linesFrom, List.reverse_reverse,
    if_neg (mt List.isEmpty_iff.1 (mt List.reverse_eq_nil_iff.1 something))]

/-- What follows the last line end but one is the last line. -/
theorem linesFrom_append_tail (ends : isLineEnd c = true) (single : c ≠ '\r')
    (unbroken : Unbroken tail) (front : List Char) :
    linesFrom [] (front ++ c :: (tail ++ ['\n'])) = linesFrom [] (front ++ [c]) ++ [tail] := by
  have feed (line : List Char) : linesFrom line ['\n'] = [line.reverse] := rfl
  rw [linesFrom_append_end ends single, linesFrom_append_of_unbroken unbroken, feed,
    List.append_nil, List.reverse_reverse]

end WebPreview.Text
