import WebPreview.Text.Classes
import WebPreview.Text.Word

/-! # Where blanks and words end

Taking the characters of a class off both ends leaves all the others, and a text in which none
stands at an end is left alone (`WebPreview.Text.stripWhile_of_ends`). What trimming leaves of a
text does not start with a blank (`WebPreview.Text.startsBlank_trimChars`). Whether a word is under
way behind a text is told piece by piece (`WebPreview.Text.underWay_append`). No blank is part of a
word (`WebPreview.Text.isWord_of_isBlank`), so none is under way behind blanks.
-/

namespace WebPreview.Text

variable {p : Char → Bool} {c : Char} {cs : List Char}

private theorem isPrefix_stripWhile (p : Char → Bool) (cs : List Char) :
    stripWhile p cs <+: cs.dropWhile p := by
  rw [stripWhile, ← List.reverse_suffix, List.reverse_reverse]
  exact List.dropWhile_suffix p

/-- A stripped text stands inside the text. -/
theorem isInfix_stripWhile (p : Char → Bool) (cs : List Char) : stripWhile p cs <:+: cs :=
  (isPrefix_stripWhile p cs).isInfix.trans (List.dropWhile_suffix p).isInfix

private theorem mem_dropWhile_of_not (inside : c ∈ cs) (kept : p c = false) :
    c ∈ cs.dropWhile p := by
  rw [← List.takeWhile_append_dropWhile (p := p) (l := cs), List.mem_append] at inside
  rcases inside with taken | left
  · have taken := List.all_eq_true.1 List.all_takeWhile c taken
    rw [kept] at taken
    cases taken
  · exact left

/-- A character that is not stripped stays. -/
theorem mem_stripWhile_of_not (inside : c ∈ cs) (kept : p c = false) : c ∈ stripWhile p cs := by
  have left := List.mem_reverse.2 (mem_dropWhile_of_not inside kept)
  exact List.mem_reverse.2 (mem_dropWhile_of_not left kept)

/-- What is left after a drop does not start with a dropped character. -/
theorem not_of_head?_dropWhile (first : (cs.dropWhile p).head? = some c) : p c = false := by
  have stopped := List.head?_dropWhile_not p cs
  rw [first] at stopped
  simpa using stopped

/-- A stripped text does not start with a stripped character. -/
theorem not_of_head?_stripWhile (first : (stripWhile p cs).head? = some c) : p c = false := by
  obtain ⟨more, whole⟩ := isPrefix_stripWhile p cs
  have front : (cs.dropWhile p).head? = some c := by
    rw [← whole, List.head?_append, first]
    rfl
  exact not_of_head?_dropWhile front

/-- A stripped text does not end with a stripped character. -/
theorem not_of_getLast?_stripWhile (last : (stripWhile p cs).getLast? = some c) :
    p c = false := by
  rw [stripWhile, List.getLast?_reverse] at last
  exact not_of_head?_dropWhile last

private theorem dropWhile_of_head? (starts : ∀ c, cs.head? = some c → p c = false) :
    cs.dropWhile p = cs := by
  cases cs with
  | nil => rfl
  | cons c cs => exact List.dropWhile_cons_of_neg (Bool.eq_false_iff.1 (starts c rfl))

/-- A text with nothing to strip at its ends is left as it is. -/
theorem stripWhile_of_ends (starts : ∀ c, cs.head? = some c → p c = false)
    (ends : ∀ c, cs.getLast? = some c → p c = false) : stripWhile p cs = cs := by
  rw [stripWhile, dropWhile_of_head? starts, dropWhile_of_head?, List.reverse_reverse]
  rwa [List.head?_reverse]

/-- Whether there is a blank at the front. -/
def startsBlank : List Char → Bool
  | [] => false
  | c :: _ => isBlank c

/-- There are blanks in front exactly if the text starts blank. -/
theorem isEmpty_takeWhile_isBlank (cs : List Char) :
    (cs.takeWhile isBlank).isEmpty = !startsBlank cs := by
  cases cs with
  | nil => rfl
  | cons c cs => cases blank : isBlank c <;> simp [startsBlank, blank]

/-- A text that does not start blank is left as it is. -/
theorem trimStart_of_not_startsBlank (tight : startsBlank cs = false) : trimStart cs = cs := by
  cases cs with
  | nil => rfl
  | cons c cs => exact List.dropWhile_cons_of_neg (Bool.eq_false_iff.1 tight)

/-- A text is its blanks in front and what is left of it. -/
theorem exists_blanks (cs : List Char) :
    ∃ blanks, cs = blanks ++ trimStart cs ∧ ∀ c ∈ blanks, isBlank c = true :=
  ⟨cs.takeWhile isBlank, List.takeWhile_append_dropWhile.symm,
    fun c inside => List.all_eq_true.1 List.all_takeWhile c inside⟩

/-- A trimmed text stands inside the text. -/
theorem isInfix_trimChars (cs : List Char) : trimChars cs <:+: cs := isInfix_stripWhile isBlank cs

/-- A trimmed text does not start blank. -/
theorem startsBlank_trimChars (cs : List Char) : startsBlank (trimChars cs) = false := by
  cases left : trimChars cs with
  | nil => rfl
  | cons c rest =>
      have first : (stripWhile isBlank cs).head? = some c := congrArg List.head? left
      exact not_of_head?_stripWhile first

/-- Whether a word is under way behind a text, if `inWord` tells whether one is in front of it. -/
def underWay (inWord : Bool) : List Char → Bool
  | [] => inWord
  | c :: cs => underWay (isWord c) cs

/-- What is under way behind the first of two texts is carried through the second. -/
theorem underWay_append (inWord : Bool) (front cs : List Char) :
    underWay inWord (front ++ cs) = underWay (underWay inWord front) cs := by
  induction front generalizing inWord with
  | nil => rfl
  | cons c front ih => exact ih (isWord c)

private theorem spans_apart :
    ∀ s ∈ blankSpans, ∀ w ∈ wordSpans, w.last < s.first ∨ s.last < w.first := by
  decide +kernel

private theorem isWord_ofNat_of_isBlank :
    ∀ n < 128, isBlank (Char.ofNat n) = true → isWord (Char.ofNat n) = false := by
  decide +kernel

/-- No blank is part of a word. -/
theorem isWord_of_isBlank (blank : isBlank c = true) : isWord c = false := by
  by_cases ascii : c.toNat < 128
  · rw [← Char.ofNat_toNat c] at blank ⊢
    exact isWord_ofNat_of_isBlank c.toNat ascii blank
  · rw [isWord, if_neg ascii, ← Bool.not_eq_true]
    intro word
    obtain ⟨s, blanks, first, last⟩ := inSpans_iff.1 blank
    obtain ⟨w, words, first', last'⟩ := inSpans_iff.1 word
    have apart := spans_apart s blanks w words
    omega

/-- A blank ends a word. -/
theorem endsWord_of_startsBlank (blank : startsBlank cs = true) : endsWord cs = true := by
  cases cs with
  | nil => rfl
  | cons c cs => rw [endsWord, isWord_of_isBlank blank, Bool.not_false]

/-- No word is under way behind blanks. -/
theorem underWay_of_blank (blank : ∀ c ∈ cs, isBlank c = true) : underWay false cs = false := by
  induction cs with
  | nil => rfl
  | cons c cs ih =>
      obtain ⟨first, rest⟩ := List.forall_mem_cons.1 blank
      rw [underWay, isWord_of_isBlank first]
      exact ih rest

end WebPreview.Text
