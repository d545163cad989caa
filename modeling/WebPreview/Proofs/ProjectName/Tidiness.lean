import WebPreview.ProjectName
import WebPreview.Proofs.Text.Boundaries
import WebPreview.Proofs.Text.LowerCase

/-! # Names that stay as they are

What is left of a title before lower case is tidy: it is short, not empty, made of word characters
and hyphens, and has no underscore at an end (`WebPreview.ProjectName.isStem_stem`). Lower case
comes last, and it keeps all that but for one capital, the dotted `İ`, which becomes an `i` and a
dot above. The dot is no word character. So the name of a title is tidy, and makes itself when it is
taken as a title again, exactly if no dotted `İ` is among the characters that count
(`WebPreview.ProjectName.ofTitle_tidy_iff`).
-/

namespace WebPreview.ProjectName

open Text

variable {c d : Char} {cs : List Char} {title : String}

private theorem length_joinBlanks_le (cs : List Char) : (joinBlanks cs).length ≤ cs.length := by
  induction cs with
  | nil => exact Nat.le_refl 0
  | cons c cs ih =>
      rw [joinBlanks]
      split
      · split
        · exact Nat.le_succ_of_le ih
        · exact Nat.succ_le_succ ih
      · exact Nat.succ_le_succ ih

private theorem mem_of_mem_joinBlanks (inside : c ∈ joinBlanks cs) : c = '_' ∨ c ∈ cs := by
  induction cs with
  | nil => cases inside
  | cons d cs ih =>
      have later (inside : c ∈ joinBlanks cs) : c = '_' ∨ c ∈ d :: cs :=
        (ih inside).imp_right (List.mem_cons_of_mem d)
      rw [joinBlanks] at inside
      split at inside
      · split at inside
        · exact later inside
        · exact (List.mem_cons.1 inside).elim .inl later
      · rcases List.mem_cons.1 inside with rfl | inside
        · exact .inr List.mem_cons_self
        · exact later inside

private theorem mem_joinBlanks_of_not_blank (inside : c ∈ cs) (kept : isBlank c = false) :
    c ∈ joinBlanks cs := by
  induction cs with
  | nil => cases inside
  | cons d cs ih =>
      rw [joinBlanks]
      rcases List.mem_cons.1 inside with rfl | inside
      · rw [if_neg (Bool.eq_false_iff.1 kept)]
        exact List.mem_cons_self
      · split
        · split
          · exact ih inside
          · exact List.mem_cons_of_mem _ (ih inside)
        · exact List.mem_cons_of_mem _ (ih inside)

private theorem joinBlanks_of_no_blank (none : ∀ c ∈ cs, isBlank c = false) :
    joinBlanks cs = cs := by
  induction cs with
  | nil => rfl
  | cons c cs ih =>
      obtain ⟨first, rest⟩ := List.forall_mem_cons.1 none
      rw [joinBlanks, if_neg (Bool.eq_false_iff.1 first), ih rest]

private theorem isAllowed_iff : isAllowed c = true ↔ isWord c = true ∨ c = '-' := by
  rw [isAllowed, Bool.or_eq_true, beq_iff_eq]

private theorem not_blank_of_isAllowed (allowed : isAllowed c = true) : isBlank c = false := by
  rw [← Bool.not_eq_true]
  intro blank
  rw [isAllowed, isWord_of_isBlank blank, Bool.false_or, beq_iff_eq] at allowed
  subst allowed
  revert blank
  decide

/-- What a name is before lower case: neither empty nor too long, made of word characters and
hyphens, and without an underscore at either end. -/
structure IsStem (cs : List Char) : Prop where
  some : cs ≠ []
  short : cs.length ≤ maxLength
  allowed : ∀ c ∈ cs, isAllowed c = true
  starts : cs.head? ≠ .some '_'
  ends : cs.getLast? ≠ .some '_'

/-- What is left of a title, or the name of a title of which nothing is left. -/
def stem (title : String) : List Char :=
  if (remains title.toList).isEmpty then fallback.toList else remains title.toList

private theorem toList_ofTitle (title : String) :
    (ofTitle title).toList = lowerChars (stem title) := by
  rw [ofTitle, lower, String.toList_ofList, stem]
  split
  · rfl
  · rw [String.toList_ofList]

/-- The stem of a title is a stem. -/
theorem isStem_stem (title : String) : IsStem (stem title) := by
  rw [stem]
  split
  · have allowed : fallback.toList.all isAllowed = true := by decide +kernel
    exact ⟨by decide, by decide, List.all_eq_true.1 allowed, by decide, by decide⟩
  · next left =>
      have within := (isInfix_stripWhile (· == '_')
        ((joinBlanks (trimChars (title.toList.take maxLength))).filter isAllowed)).sublist
      refine ⟨fun empty => left (List.isEmpty_iff.2 empty), ?_, ?_, ?_, ?_⟩
      · calc (remains title.toList).length
          _ ≤ _ := within.length_le
          _ ≤ (joinBlanks (trimChars (title.toList.take maxLength))).length :=
            List.length_filter_le _ _
          _ ≤ (trimChars (title.toList.take maxLength)).length := length_joinBlanks_le _
          _ ≤ (title.toList.take maxLength).length := (isInfix_trimChars _).length_le
          _ ≤ maxLength := List.length_take_le _ _
      · intro c inside
        exact (List.mem_filter.1 (within.subset inside)).2
      · intro first
        exact absurd (not_of_head?_stripWhile first) (by decide)
      · intro last
        exact absurd (not_of_getLast?_stripWhile last) (by decide)

/-- The steps before lower case leave a stem alone. -/
theorem IsStem.remains_eq (stem : IsStem cs) : remains cs = cs := by
  have unblank (c : Char) (inside : c ∈ cs) : isBlank c = false :=
    not_blank_of_isAllowed (stem.allowed c inside)
  have cut : cs.take maxLength = cs := List.take_of_length_le stem.short
  have trimmed : trimChars cs = cs :=
    stripWhile_of_ends (fun c first => unblank c (List.mem_of_head? first))
      fun c last => unblank c (List.mem_of_getLast? last)
  rw [remains, cut, trimmed, joinBlanks_of_no_blank unblank, List.filter_eq_self.2 stem.allowed]
  refine stripWhile_of_ends (fun c first => ?_) fun c last => ?_
  · rw [beq_eq_false_iff_ne]
    rintro rfl
    exact stem.starts first
  · rw [beq_eq_false_iff_ne]
    rintro rfl
    exact stem.ends last

private theorem IsStem.stem_eq (stem : IsStem title.toList) :
    ProjectName.stem title = title.toList := by
  have left : ¬(remains title.toList).isEmpty = true := by
    rw [stem.remains_eq, List.isEmpty_iff]
    exact stem.some
  rw [ProjectName.stem, if_neg left, stem.remains_eq]

/-- Lower case keeps the characters of a stem, the dotted capital excepted. -/
theorem isAllowed_of_mem_lowerChar {before after : List Char}
    (made : d ∈ lowerChar before c after) (allowed : isAllowed c = true) (undotted : c ≠ 'İ') :
    isAllowed d = true := by
  rw [isAllowed_iff] at allowed ⊢
  rcases allowed with word | rfl
  · exact .inl ((lowered before c after).isWord word undotted made)
  · have hyphen : IsLower '-' := isLower_of_ascii (by decide) (by decide)
    rw [hyphen] at made
    exact .inr (List.mem_singleton.1 made)

private theorem IsStem.lowerChars (stem : IsStem cs) (undotted : 'İ' ∉ cs) :
    IsStem (lowerChars cs) where
  some := by
    intro empty
    have length := length_lowerFrom [] cs
    rw [← Text.lowerChars, empty, List.length_nil] at length
    exact stem.some (List.length_eq_zero_iff.1 (by omega))
  short := by
    rw [Text.lowerChars, length_lowerFrom, List.count_eq_zero.2 undotted]
    exact stem.short
  allowed := by
    intro d inside
    obtain ⟨b, c, here, a, made⟩ := exists_lowerChar_of_mem inside
    have other : c ≠ 'İ' := fun same => undotted (same ▸ here)
    exact isAllowed_of_mem_lowerChar made (stem.allowed c here) other
  starts := fun first => stem.starts (head?_of_lowerFrom first)
  ends := fun last => stem.ends (getLast?_of_lowerFrom last)

/-- The dot that lower case leaves of the dotted capital. -/
def dotAbove : Char := '\u0307'

private theorem isAllowed_dotAbove : isAllowed dotAbove = false := by
  decide +kernel

/-- A dotted capital in the stem leaves its dot in the name. -/
theorem dotAbove_mem_of_mem (dotted : 'İ' ∈ cs) : dotAbove ∈ lowerChars cs := by
  obtain ⟨b, a, made⟩ := exists_lowerChar_subset dotted []
  have pair : lowerChar b 'İ' a = ['i', dotAbove] := rfl
  rw [pair] at made
  exact made dotAbove (List.mem_cons_of_mem _ (List.mem_singleton_self _))

/-- No dotted capital is in a text in lower case. -/
theorem undotted_lowerChars (cs : List Char) : 'İ' ∉ lowerChars cs := by
  intro dotted
  obtain ⟨b, c, -, a, made⟩ := exists_lowerChar_of_mem dotted
  have same := (lowered b c a).isLower made [] []
  revert same
  decide

/-- The steps before lower case lose no dotted capital among the characters that count. -/
theorem dotted_mem_remains_iff : 'İ' ∈ remains cs ↔ 'İ' ∈ cs.take maxLength := by
  constructor
  · intro dotted
    have filtered := (isInfix_stripWhile (· == '_') _).subset dotted
    rcases mem_of_mem_joinBlanks (List.mem_filter.1 filtered).1 with wrong | trimmed
    · exact absurd wrong (by decide)
    · exact (isInfix_trimChars _).subset trimmed
  · intro dotted
    have trimmed : 'İ' ∈ trimChars (cs.take maxLength) := mem_stripWhile_of_not dotted (by decide)
    have joined := mem_joinBlanks_of_not_blank trimmed (by decide)
    have allowed : isAllowed 'İ' = true := by decide +kernel
    exact mem_stripWhile_of_not (List.mem_filter.2 ⟨joined, allowed⟩) (by decide)

private theorem dotted_mem_stem_iff : 'İ' ∈ stem title ↔ 'İ' ∈ title.toList.take maxLength := by
  rw [← dotted_mem_remains_iff, stem]
  split
  · next empty =>
      rw [List.isEmpty_iff.1 empty]
      decide
  · rfl

/-- What every name for a download keeps: it is not empty, has no underscore at an end and is in
lower case. -/
structure IsNeat (name : String) : Prop where
  some : name ≠ ""
  starts : name.toList.head? ≠ .some '_'
  ends : name.toList.getLast? ≠ .some '_'
  lower : Text.lower name = name

/-- What a name for a download promises. It is neat and short, has nothing but word characters and
hyphens, and makes itself when it is taken as a title. -/
structure IsTidy (name : String) : Prop extends IsNeat name where
  short : name.length ≤ 50
  allowed : ∀ c ∈ name.toList, isWord c = true ∨ c = '-'
  again : ofTitle name = name

private theorem isNeat_ofTitle (title : String) : IsNeat (ofTitle title) where
  some := by
    intro empty
    have length := length_lowerFrom [] (stem title)
    rw [← lowerChars, ← toList_ofTitle, empty, String.toList_empty, List.length_nil] at length
    exact (isStem_stem title).some (List.length_eq_zero_iff.1 (by omega))
  starts := by
    rw [toList_ofTitle, lowerChars]
    exact fun first => (isStem_stem title).starts (head?_of_lowerFrom first)
  ends := by
    rw [toList_ofTitle, lowerChars]
    exact fun last => (isStem_stem title).ends (getLast?_of_lowerFrom last)
  lower := lower_lower _

private theorem length_ofTitle (title : String) :
    (ofTitle title).length = (stem title).length + (stem title).count 'İ' := by
  rw [← String.length_toList, toList_ofTitle, lowerChars, length_lowerFrom]

private theorem length_ofTitle_le (title : String) : (ofTitle title).length ≤ 100 := by
  have short : (stem title).length ≤ 50 := (isStem_stem title).short
  have dotted : (stem title).count 'İ' ≤ (stem title).length := List.count_le_length
  rw [length_ofTitle]
  omega

private theorem allowed_or_dotAbove (title : String) :
    ∀ c ∈ (ofTitle title).toList, isAllowed c = true ∨ c = dotAbove := by
  intro d inside
  rw [toList_ofTitle] at inside
  obtain ⟨b, c, here, a, made⟩ := exists_lowerChar_of_mem inside
  by_cases dotted : c = 'İ'
  · subst dotted
    have pair : lowerChar b 'İ' a = ['i', dotAbove] := rfl
    rw [pair] at made
    rcases List.mem_cons.1 made with rfl | made
    · exact .inl (by decide)
    · exact .inr (List.mem_singleton.1 made)
  · exact .inl (isAllowed_of_mem_lowerChar made ((isStem_stem title).allowed c here) dotted)

/-- Without a dotted capital a name is still a stem. -/
theorem isStem_ofTitle (undotted : 'İ' ∉ title.toList.take 50) :
    IsStem (ofTitle title).toList := by
  rw [toList_ofTitle]
  exact (isStem_stem title).lowerChars (mt dotted_mem_stem_iff.1 undotted)

private theorem ofTitle_ofTitle (undotted : 'İ' ∉ title.toList.take 50) :
    ofTitle (ofTitle title) = ofTitle title := by
  rw [← String.toList_inj, toList_ofTitle, (isStem_ofTitle undotted).stem_eq, toList_ofTitle,
    lowerChars_lowerChars]

/-- The dot of a dotted capital is lost when the name is taken as a title again. -/
theorem ofTitle_ofTitle_ne (dotted : 'İ' ∈ title.toList.take 50) :
    ofTitle (ofTitle title) ≠ ofTitle title := by
  intro same
  have undotted : 'İ' ∉ (ofTitle title).toList.take 50 := by
    intro inside
    rw [toList_ofTitle] at inside
    exact undotted_lowerChars _ (List.mem_of_mem_take inside)
  have allowed := (isStem_ofTitle undotted).allowed
  rw [same, toList_ofTitle] at allowed
  have dot := allowed dotAbove (dotAbove_mem_of_mem (dotted_mem_stem_iff.2 dotted))
  rw [isAllowed_dotAbove] at dot
  cases dot

/-- **When a name is tidy.** A name for a download is tidy exactly if none of the first fifty
characters of its title is a dotted capital `İ`: with one, the name has something in it that is no
word character, and it makes another name when it is taken as a title. Every name is neat, is at
most twice as long as it should be, and holds nothing but word characters, hyphens and the dot of
that capital. -/
theorem ofTitle_tidy_iff (title : String) :
    (IsTidy (ofTitle title) ↔ 'İ' ∉ title.toList.take 50) ∧
      ((∀ c ∈ (ofTitle title).toList, isWord c = true ∨ c = '-') ↔
        'İ' ∉ title.toList.take 50) ∧
      (ofTitle (ofTitle title) = ofTitle title ↔ 'İ' ∉ title.toList.take 50) ∧
      IsNeat (ofTitle title) ∧ (ofTitle title).length ≤ 100 ∧
      ∀ c ∈ (ofTitle title).toList, isAllowed c = true ∨ c = dotAbove := by
  have allowed_iff : (∀ c ∈ (ofTitle title).toList, isWord c = true ∨ c = '-') ↔
      'İ' ∉ title.toList.take 50 := by
    constructor
    · intro allowed dotted
      have dot := dotAbove_mem_of_mem (dotted_mem_stem_iff.2 dotted)
      rw [← toList_ofTitle] at dot
      have wrong := isAllowed_iff.2 (allowed dotAbove dot)
      rw [isAllowed_dotAbove] at wrong
      cases wrong
    · exact fun undotted c inside => isAllowed_iff.1 ((isStem_ofTitle undotted).allowed c inside)
  have again_iff : ofTitle (ofTitle title) = ofTitle title ↔ 'İ' ∉ title.toList.take 50 :=
    ⟨fun again dotted => ofTitle_ofTitle_ne dotted again, ofTitle_ofTitle⟩
  refine ⟨⟨fun tidy => again_iff.1 tidy.again, fun undotted => ?_⟩, allowed_iff, again_iff,
    isNeat_ofTitle title, length_ofTitle_le title, allowed_or_dotAbove title⟩
  exact { isNeat_ofTitle title with
    short := String.length_toList ▸ (isStem_ofTitle undotted).short
    allowed := allowed_iff.2 undotted
    again := again_iff.2 undotted }

/-- The name of a single dotted capital has its dot in it, which is lost the second time, and that
of fifty of them is a hundred characters long. -/
theorem ofTitle_dotted : ofTitle "İ" = "i\u0307" ∧ ofTitle "i\u0307" = "i" ∧
    (ofTitle (String.ofList (List.replicate 50 'İ'))).length = 100 ∧ ¬IsTidy (ofTitle "İ") := by
  have made : ofTitle "İ" = "i\u0307" := by decide +kernel
  have lost : ofTitle "i\u0307" = "i" := by decide +kernel
  have whole : stem (String.ofList (List.replicate 50 'İ')) = List.replicate 50 'İ' := by
    rw [stem, String.toList_ofList]
    decide +kernel
  refine ⟨made, lost, ?_, fun tidy => ?_⟩
  · rw [length_ofTitle, whole, List.length_replicate, List.count_replicate_self]
  · have again := tidy.again
    rw [made, lost] at again
    revert again
    decide

end WebPreview.ProjectName
