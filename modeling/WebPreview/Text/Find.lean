/-! # First occurrences

Where a text first occurs in another, and putting something else in its place. The main statement
is `splitFirst?_eq_some_iff`: the split is at an occurrence, and no occurrence starts before it.
-/

namespace WebPreview.Text

/-- What follows `pat`, if the text starts with it. -/
def after? : (pat text : List Char) → Option (List Char)
  | [], text => some text
  | _ :: _, [] => none
  | p :: ps, c :: cs => if p = c then after? ps cs else none

/-- There is a rest exactly if the text starts with the pattern. -/
theorem after?_eq_some_iff {pat text rest : List Char} :
    after? pat text = some rest ↔ text = pat ++ rest := by
  induction pat generalizing text with
  | nil => simp [after?]
  | cons p ps ih =>
    cases text with
    | nil => simp [after?]
    | cons c cs =>
      by_cases h : p = c
      · simp [after?, h, ih]
      · have : ¬c = p := fun same => h same.symm
        simp [after?, h, this]

/-- There is no rest exactly if the text does not start with the pattern. -/
theorem after?_eq_none_iff {pat text : List Char} :
    after? pat text = none ↔ ∀ rest, text ≠ pat ++ rest := by
  rw [Option.eq_none_iff_forall_ne_some]
  exact forall_congr' fun rest => not_congr after?_eq_some_iff

/-- Splits the text around the first occurrence of `pat`. -/
def splitFirst? (pat : List Char) : List Char → Option (List Char × List Char)
  | [] => if pat.isEmpty then some ([], []) else none
  | c :: cs =>
    match after? pat (c :: cs) with
    | some rest => some ([], rest)
    | none => (splitFirst? pat cs).map fun (pre, post) => (c :: pre, post)

/-- A split is at an occurrence, and no occurrence starts before it. -/
theorem splitFirst?_eq_some_iff {pat cs pre post : List Char} :
    splitFirst? pat cs = some (pre, post) ↔
      cs = pre ++ pat ++ post ∧ ∀ a b, cs = a ++ pat ++ b → pre.length ≤ a.length := by
  induction cs generalizing pre with
  | nil =>
    cases pat with
    | nil => cases pre <;> cases post <;> simp [splitFirst?]
    | cons p ps => simp [splitFirst?]
  | cons c cs ih =>
    cases found : after? pat (c :: cs) with
    | some rest =>
      have here : c :: cs = pat ++ rest := after?_eq_some_iff.1 found
      simp only [splitFirst?, found, Option.some.injEq, Prod.mk.injEq]
      constructor
      · rintro ⟨rfl, rfl⟩
        exact ⟨here, fun _ _ _ => Nat.zero_le _⟩
      · rintro ⟨split, least⟩
        obtain rfl : pre = [] := List.length_eq_zero_iff.1 (Nat.le_zero.1 (least [] rest here))
        exact ⟨rfl, List.append_cancel_left (here.symm.trans split)⟩
    | none =>
      have nothing := after?_eq_none_iff.1 found
      simp only [splitFirst?, found, Option.map_eq_some_iff, Prod.exists, Prod.mk.injEq]
      constructor
      · rintro ⟨pre, post, split, rfl, rfl⟩
        obtain ⟨rfl, least⟩ := ih.1 split
        refine ⟨rfl, fun a b other => ?_⟩
        cases a with
        | nil => exact absurd other (nothing b)
        | cons d a => exact Nat.succ_le_succ (least a b (List.cons.inj other).2)
      · rintro ⟨split, least⟩
        cases pre with
        | nil => exact absurd split (nothing post)
        | cons d pre =>
          obtain ⟨rfl, tail⟩ := List.cons.inj split
          refine ⟨pre, post, ih.2 ⟨tail, fun a b other => ?_⟩, rfl, rfl⟩
          exact Nat.le_of_succ_le_succ (least (c :: a) b (congrArg (c :: ·) other))

/-- Splits the text around the last occurrence of `pat`. -/
def splitLast? (pat cs : List Char) : Option (List Char × List Char) :=
  (splitFirst? pat.reverse cs.reverse).map fun (post, pre) => (pre.reverse, post.reverse)

/-- Whether `pat` occurs in the text. -/
def occurs (pat text : String) : Bool := (splitFirst? pat.toList text.toList).isSome

/-- The text with the first occurrence of `pat`, if there is one, replaced by `block`. -/
def replaceFirst (pat block text : String) : String :=
  match splitFirst? pat.toList text.toList with
  | some (pre, post) => String.ofList (pre ++ block.toList ++ post)
  | none => text

/-- Whether the text ends with `tail`. -/
def endsWith (text tail : String) : Bool := tail.toList.isSuffixOf text.toList

/-- Whether the text starts with `head`. -/
def startsWith (text head : String) : Bool := head.toList.isPrefixOf text.toList

/-- The text with every occurrence of one character replaced by another. -/
def replaceChar (old new : Char) (s : String) : String :=
  s.map fun c => if c = old then new else c

/-- The last `n` characters. -/
def takeLast (n : Nat) (s : String) : String :=
  String.ofList (s.toList.drop (s.toList.length - n))

/-- The first `n` characters. -/
def takeFirst (n : Nat) (s : String) : String := String.ofList (s.toList.take n)

/-- Takes a character off the end as often as it stands there. -/
def dropTrailing (c : Char) (s : String) : String :=
  String.ofList (s.toList.reverse.dropWhile (· == c)).reverse

/-- Splits at every occurrence of a character. -/
def splitOnChar (sep : Char) : List Char → List (List Char)
  | [] => [[]]
  | c :: cs =>
    match splitOnChar sep cs with
    | [] => [[c]]
    | piece :: pieces => if c = sep then [] :: piece :: pieces else (c :: piece) :: pieces

/-- Whether some tail of the text, the whole and the empty one included, passes the test. -/
def anyTail (p : List Char → Bool) : List Char → Bool
  | [] => p []
  | c :: cs => p (c :: cs) || anyTail p cs

end WebPreview.Text
