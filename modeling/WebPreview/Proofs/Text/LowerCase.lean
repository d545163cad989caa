import WebPreview.Text.Casing
import WebPreview.Text.Word

/-! # What lower case leaves

Lower case leaves nothing to do for itself: every character that it makes stays as it is, wherever
it stands (`WebPreview.Text.Lowered.isLower`), so a text in lower case is left alone
(`WebPreview.Text.lower_lower`). One capital becomes two characters, the dotted `İ`: an `i` and the
dot above it, which is no word character. Every other one becomes one character, and a word
character stays one (`WebPreview.Text.Lowered.isWord`). Of the characters outside ASCII only the
sign of the kelvin becomes one inside, a `k`, so a word without that letter is only made of the
letters of ASCII (`WebPreview.Text.lowerChars_eq_iff`).
-/

namespace WebPreview.Text

variable {b c d : Char} {before after cs word : List Char} {runs : List CaseRun} {r s : CaseRun}
  {n m : Nat}

namespace CaseRun

/-- Where a run sends a code point. -/
def image (r : CaseRun) (n : Nat) : Nat := ((n : Int) + r.offset).toNat

/-- No image of the first run is mapped by the second: the two lie apart, or they take turns, one
code point by one. -/
def apart (r s : CaseRun) : Bool :=
  Nat.blt (r.image r.last) s.first || Nat.blt s.last (r.image r.first)
    || (Nat.beq s.stride 2 && Nat.ble s.first (r.image r.first)
      && Nat.beq ((r.image r.first - s.first) % 2) 1
      && (Nat.beq r.stride 2 || Nat.beq r.first r.last))

/-- No image of the run lies between the two code points, these included. -/
def avoids (r : CaseRun) (first last : Nat) : Bool :=
  Nat.blt (r.image r.last) first || Nat.blt last (r.image r.first)

private theorem contains_iff : r.contains n = true ↔
    r.first ≤ n ∧ n ≤ r.last ∧ (n - r.first) % r.stride = 0 := by
  simp [CaseRun.contains, and_assoc]

private theorem image_bounds (contains : r.contains n = true) :
    r.image r.first ≤ r.image n ∧ r.image n ≤ r.image r.last := by
  obtain ⟨low, high, -⟩ := contains_iff.1 contains
  simp only [image]
  omega

private theorem not_between_of_avoids {first last : Nat} (avoids : r.avoids first last = true)
    (contains : r.contains n = true) : r.image n < first ∨ last < r.image n := by
  obtain ⟨low, high⟩ := image_bounds contains
  simp only [CaseRun.avoids, Bool.or_eq_true, Nat.blt_eq] at avoids
  omega

private theorem not_contains_image (apart : r.apart s = true) (contains : r.contains n = true) :
    s.contains (r.image n) = false := by
  rw [← Bool.not_eq_true, contains_iff]
  rintro ⟨first, last, step⟩
  obtain ⟨low, high⟩ := image_bounds contains
  simp only [CaseRun.apart, Bool.or_eq_true, Bool.and_eq_true, Nat.blt_eq, Nat.beq_eq,
    Nat.ble_eq] at apart
  rcases apart with (below | above) | ⟨⟨⟨two, start⟩, odd⟩, turns⟩
  · omega
  · omega
  · -- every image is an even number of code points away from the first one
    rw [two] at step
    obtain ⟨least, most, even⟩ := contains_iff.1 contains
    rcases turns with turn | single
    · rw [turn] at even
      simp only [image] at *
      omega
    · obtain rfl : n = r.first := by omega
      omega

end CaseRun

private theorem exists_run (mapped : mapRuns? runs n = some m) :
    ∃ r ∈ runs, r.contains n = true ∧ r.image n = m := by
  obtain ⟨r, found, sent⟩ := Option.map_eq_some_iff.1 mapped
  have contains := List.find?_some (p := fun r : CaseRun => r.contains n) found
  exact ⟨r, List.mem_of_find?_eq_some found, contains, sent⟩

/-- A code point of a character outside ASCII that lower case leaves alone: it is neither of the two
that have a rule of their own, and no run maps it. -/
structure IsSettled (m : Nat) : Prop where
  valid : m.isValidChar
  outside : 128 ≤ m
  notDotted : m ≠ 0x130
  notSigma : m ≠ 0x3A3
  unmapped : mapRuns? lowerRuns m = none

/-- The run maps to what is settled, or it is that of the sign of the kelvin. -/
def CaseRun.settles (r : CaseRun) : Bool :=
  (r.avoids 0 127 && r.avoids 0x130 0x130 && r.avoids 0x3A3 0x3A3 && r.avoids 0xD800 0xDFFF
      && Nat.blt (r.image r.last) 0x110000 && lowerRuns.all r.apart)
    || (Nat.beq r.first 0x212A && Nat.beq r.last 0x212A && Nat.beq (r.image 0x212A) 0x6B)

private theorem settles_lowerRuns : lowerRuns.all CaseRun.settles = true := by
  decide +kernel

private theorem isSettled_image (listed : r ∈ lowerRuns) (contains : r.contains n = true) :
    IsSettled (r.image n) ∨ n = 0x212A ∧ r.image n = 0x6B := by
  have settles := List.all_eq_true.1 settles_lowerRuns r listed
  simp only [CaseRun.settles, Bool.or_eq_true, Bool.and_eq_true, Nat.beq_eq, Nat.blt_eq] at settles
  rcases settles with ⟨⟨⟨⟨⟨inside, dotted⟩, sigma⟩, halves⟩, top⟩, apart⟩ | ⟨⟨first, last⟩, letter⟩
  · have inside := CaseRun.not_between_of_avoids inside contains
    have dotted := CaseRun.not_between_of_avoids dotted contains
    have sigma := CaseRun.not_between_of_avoids sigma contains
    have halves := CaseRun.not_between_of_avoids halves contains
    have bounds := CaseRun.image_bounds contains
    refine .inl ⟨?_, by omega, by omega, by omega, ?_⟩
    · rw [Nat.isValidChar]
      omega
    · rw [mapRuns?, Option.map_eq_none_iff, List.find?_eq_none]
      intro s other
      rw [CaseRun.not_contains_image (List.all_eq_true.1 apart s other) contains]
      exact Bool.false_ne_true
  · obtain ⟨low, high, -⟩ := CaseRun.contains_iff.1 contains
    obtain rfl : n = 0x212A := by omega
    exact .inr ⟨rfl, letter⟩

/-- What the run maps are word characters mapped to word characters, or no word characters at all,
or it is that of the sign of the kelvin. -/
def CaseRun.keepsWords (r : CaseRun) : Bool :=
  wordSpans.any (fun s => Nat.ble s.first (r.image r.first) && Nat.ble (r.image r.last) s.last)
    || wordSpans.all (fun s => Nat.blt s.last r.first || Nat.blt r.last s.first)
    || Nat.beq (r.image r.last) 0x6B

private theorem keepsWords_lowerRuns : lowerRuns.all CaseRun.keepsWords = true := by
  decide +kernel

private theorem span_image (listed : r ∈ lowerRuns) (contains : r.contains n = true)
    (settled : IsSettled (r.image n)) (word : ∃ s ∈ wordSpans, s.first ≤ n ∧ n ≤ s.last) :
    ∃ s ∈ wordSpans, s.first ≤ r.image n ∧ r.image n ≤ s.last := by
  have keeps := List.all_eq_true.1 keepsWords_lowerRuns r listed
  have bounds := CaseRun.image_bounds contains
  obtain ⟨low, high, -⟩ := CaseRun.contains_iff.1 contains
  simp only [CaseRun.keepsWords, Bool.or_eq_true, List.any_eq_true, List.all_eq_true,
    Bool.and_eq_true, Nat.ble_eq, Nat.blt_eq, Nat.beq_eq] at keeps
  rcases keeps with (⟨s, span, front, back⟩ | none) | letter
  · exact ⟨s, span, by omega, by omega⟩
  · obtain ⟨s, span, front, back⟩ := word
    have apart := none s span
    omega
  · have outside := settled.outside
    omega

/-- Lower case leaves the character as it is, wherever it stands. -/
def IsLower (c : Char) : Prop := ∀ before after, lowerChar before c after = [c]

/-- What lower case makes of a character where it stands. -/
inductive Lowered (c : Char) : List Char → Prop
  | ascii (inside : c.toNat < 128) : Lowered c [c.toLower]
  | sigma (capital : c.toNat = 0x3A3) {form : Char} (small : form = 'ς' ∨ form = 'σ') :
      Lowered c [form]
  | dotted (capital : c.toNat = 0x130) : Lowered c ['i', '\u0307']
  | kelvin (capital : c.toNat = 0x212A) : Lowered c ['k']
  | kept (settled : IsSettled c.toNat) : Lowered c [c]
  | sent {r : CaseRun} {d : Char} (outside : 128 ≤ c.toNat) (undotted : c.toNat ≠ 0x130)
      (listed : r ∈ lowerRuns) (contains : r.contains c.toNat = true) (settled : IsSettled d.toNat)
      (image : r.image c.toNat = d.toNat) : Lowered c [d]

private theorem toNat_ofNat_of_valid (valid : n.isValidChar) : (Char.ofNat n).toNat = n := by
  rw [Char.ofNat, dif_pos valid]
  rfl

/-- What a character becomes is lowered. -/
theorem lowered (before : List Char) (c : Char) (after : List Char) :
    Lowered c (lowerChar before c after) := by
  by_cases inside : c.toNat < 128
  · rw [lowerChar, if_pos inside]
    exact .ascii inside
  by_cases sigma : c.toNat = 0x3A3
  · rw [lowerChar, if_neg inside, if_pos sigma]
    refine .sigma sigma ?_
    split
    · exact .inl rfl
    · exact .inr rfl
  by_cases dotted : c.toNat = 0x130
  · rw [lowerChar, if_neg inside, if_neg sigma, if_pos dotted]
    exact .dotted dotted
  rw [lowerChar, if_neg inside, if_neg sigma, if_neg dotted, mapChar]
  cases mapped : mapRuns? lowerRuns c.toNat with
  | none => exact .kept ⟨c.valid, by omega, dotted, sigma, mapped⟩
  | some m =>
      obtain ⟨r, listed, contains, rfl⟩ := exists_run mapped
      rcases isSettled_image listed contains with settled | ⟨kelvin, letter⟩
      · have whole := toNat_ofNat_of_valid settled.valid
        rw [← whole] at settled
        exact .sent (by omega) dotted listed contains settled whole.symm
      · rw [letter]
        exact .kelvin kelvin

private theorem isLower_of_isSettled (settled : IsSettled c.toNat) : IsLower c := by
  intro before after
  have outside := settled.outside
  rw [lowerChar, if_neg (by omega), if_neg settled.notSigma, if_neg settled.notDotted, mapChar,
    settled.unmapped]
  rfl

/-- An ASCII character that lowers to itself is lower. -/
theorem isLower_of_ascii (inside : c.toNat < 128) (small : c.toLower = c) : IsLower c := by
  intro before after
  rw [lowerChar, if_pos inside, small]

private theorem ascii_toLower : ∀ n < 128, (Char.ofNat n).toLower.toNat < 128 ∧
    (Char.ofNat n).toLower.toLower = (Char.ofNat n).toLower ∧
    ((Char.ofNat n).toLower = '_' → n = 0x5F) ∧
    (isWord (Char.ofNat n) = true → isWord (Char.ofNat n).toLower = true) := by
  decide +kernel

/-- A small sigma, in either form, and the dot above are left alone. -/
theorem isSettled_small : IsSettled 'ς'.toNat ∧ IsSettled 'σ'.toNat ∧ IsSettled '\u0307'.toNat := by
  refine ⟨⟨?_, ?_, ?_, ?_, ?_⟩, ⟨?_, ?_, ?_, ?_, ?_⟩, ⟨?_, ?_, ?_, ?_, ?_⟩⟩
  all_goals decide +kernel

namespace Lowered

variable {ds : List Char}

/-- **Lower case is final.** What it makes of a character it leaves as it is. -/
theorem isLower (made : Lowered c ds) (inside : d ∈ ds) : IsLower d := by
  cases made with
  | ascii ascii =>
      obtain rfl := List.mem_singleton.1 inside
      have facts := ascii_toLower c.toNat ascii
      rw [Char.ofNat_toNat] at facts
      exact isLower_of_ascii facts.1 facts.2.1
  | sigma _ small =>
      obtain rfl := List.mem_singleton.1 inside
      rcases small with rfl | rfl
      · exact isLower_of_isSettled isSettled_small.1
      · exact isLower_of_isSettled isSettled_small.2.1
  | dotted _ =>
      rcases List.mem_cons.1 inside with rfl | inside
      · exact isLower_of_ascii (by decide) (by decide)
      · obtain rfl := List.mem_singleton.1 inside
        exact isLower_of_isSettled isSettled_small.2.2
  | kelvin _ =>
      obtain rfl := List.mem_singleton.1 inside
      exact isLower_of_ascii (by decide) (by decide)
  | kept settled =>
      obtain rfl := List.mem_singleton.1 inside
      exact isLower_of_isSettled settled
  | sent _ _ _ _ settled _ =>
      obtain rfl := List.mem_singleton.1 inside
      exact isLower_of_isSettled settled

private theorem length_eq (made : Lowered c ds) : ds.length = 1 + [c].count 'İ' := by
  have undotted (other : c.toNat ≠ 0x130) : [c].count 'İ' = 0 :=
    List.count_eq_zero.2 fun same => other (congrArg Char.toNat (List.mem_singleton.1 same).symm)
  cases made with
  | ascii ascii => rw [undotted (by omega)]; rfl
  | sigma capital => rw [undotted (by omega)]; rfl
  | dotted capital =>
      obtain rfl : c = 'İ' := Char.toNat_inj.1 capital
      decide
  | kelvin capital => rw [undotted (by omega)]; rfl
  | kept settled => rw [undotted settled.notDotted]; rfl
  | sent _ other => rw [undotted other]; rfl

private theorem ne_nil (made : Lowered c ds) : ds ≠ [] := by
  rintro rfl
  have length := made.length_eq
  rw [List.length_nil] at length
  omega

/-- An underscore is only made of an underscore. -/
theorem eq_underscore (made : Lowered c ds) (inside : '_' ∈ ds) : c = '_' := by
  cases made with
  | ascii ascii =>
      have facts := ascii_toLower c.toNat ascii
      rw [Char.ofNat_toNat] at facts
      exact Char.toNat_inj.1 (facts.2.2.1 (List.mem_singleton.1 inside).symm)
  | sigma _ small =>
      obtain rfl := List.mem_singleton.1 inside
      rcases small with wrong | wrong
      all_goals exact absurd wrong (by decide)
  | dotted _ => exact absurd inside (by decide)
  | kelvin _ => exact absurd inside (by decide)
  | kept _ => exact (List.mem_singleton.1 inside).symm
  | sent _ _ _ _ settled _ =>
      obtain rfl := List.mem_singleton.1 inside
      exact absurd settled.outside (by decide)

/-- Word characters stay word characters, the dotted capital excepted: the dot above is none. -/
theorem isWord (made : Lowered c ds) (word : Text.isWord c = true) (undotted : c ≠ 'İ')
    (inside : d ∈ ds) : Text.isWord d = true := by
  cases made with
  | ascii ascii =>
      obtain rfl := List.mem_singleton.1 inside
      have facts := ascii_toLower c.toNat ascii
      rw [Char.ofNat_toNat] at facts
      exact facts.2.2.2 word
  | sigma _ small =>
      obtain rfl := List.mem_singleton.1 inside
      rcases small with rfl | rfl
      all_goals decide +kernel
  | dotted capital => exact absurd (Char.toNat_inj.1 capital) undotted
  | kelvin _ =>
      obtain rfl := List.mem_singleton.1 inside
      decide
  | kept _ =>
      obtain rfl := List.mem_singleton.1 inside
      exact word
  | sent outside _ listed contains settled image =>
      obtain rfl := List.mem_singleton.1 inside
      have wide := settled.outside
      rw [Text.isWord, if_neg (by omega), inSpans_iff] at word ⊢
      rw [← image] at settled ⊢
      exact span_image listed contains settled word

/-- Where only characters of ASCII are made, and no `k`, the character stands in ASCII. -/
theorem ascii_of_ascii (made : Lowered c ds) (plain : ∀ d ∈ ds, d.toNat < 128 ∧ d ≠ 'k') :
    c.toNat < 128 := by
  cases made with
  | ascii ascii => exact ascii
  | sigma _ small =>
      have inside := (plain _ (List.mem_singleton_self _)).1
      rcases small with rfl | rfl
      all_goals exact absurd inside (by decide)
  | dotted _ => exact absurd (plain '\u0307' (by decide)).1 (by decide)
  | kelvin _ => exact absurd rfl (plain 'k' (List.mem_singleton_self _)).2
  | kept _ => exact (plain c (List.mem_singleton_self _)).1
  | sent _ _ _ _ settled _ =>
      have inside := (plain _ (List.mem_singleton_self _)).1
      have outside := settled.outside
      omega

end Lowered

/-- Every character of a lowered text comes from one of the text. -/
theorem exists_lowerChar_of_mem (made : d ∈ lowerFrom before cs) :
    ∃ b, ∃ c ∈ cs, ∃ a, d ∈ lowerChar b c a := by
  induction cs generalizing before with
  | nil => cases made
  | cons c cs ih =>
      rcases List.mem_append.1 made with here | later
      · exact ⟨before, c, List.mem_cons_self, cs, here⟩
      · obtain ⟨b, c', inside, a, made⟩ := ih later
        exact ⟨b, c', List.mem_cons_of_mem c inside, a, made⟩

/-- What a character becomes is in the lowered text. -/
theorem exists_lowerChar_subset (inside : c ∈ cs) (before : List Char) :
    ∃ b a, ∀ d ∈ lowerChar b c a, d ∈ lowerFrom before cs := by
  induction cs generalizing before with
  | nil => cases inside
  | cons c' cs ih =>
      rcases List.mem_cons.1 inside with rfl | later
      · exact ⟨before, cs, fun d made => List.mem_append_left _ made⟩
      · obtain ⟨b, a, made⟩ := ih later (c' :: before)
        exact ⟨b, a, fun d inside => List.mem_append_right _ (made d inside)⟩

private theorem lowerFrom_of_isLower (small : ∀ c ∈ cs, IsLower c) (before : List Char) :
    lowerFrom before cs = cs := by
  induction cs generalizing before with
  | nil => rfl
  | cons c cs ih =>
      obtain ⟨first, rest⟩ := List.forall_mem_cons.1 small
      rw [lowerFrom, first, ih rest]
      rfl

/-- Lowering twice is lowering once. -/
theorem lowerChars_lowerChars (cs : List Char) : lowerChars (lowerChars cs) = lowerChars cs := by
  refine lowerFrom_of_isLower ?_ []
  intro d made
  obtain ⟨b, c, -, a, made⟩ := exists_lowerChar_of_mem made
  exact (lowered b c a).isLower made

/-- Lower case changes nothing the second time. -/
theorem lower_lower (s : String) : lower (lower s) = lower s := by
  simp only [lower, String.toList_ofList, lowerChars_lowerChars]

/-- Lowering adds a character for each dotted capital I, and no other. -/
theorem length_lowerFrom (before cs : List Char) :
    (lowerFrom before cs).length = cs.length + cs.count 'İ' := by
  induction cs generalizing before with
  | nil => rfl
  | cons c cs ih =>
      have both : (c :: cs).count 'İ' = [c].count 'İ' + cs.count 'İ' :=
        (List.count_append : ([c] ++ cs).count 'İ' = _)
      rw [lowerFrom, List.length_append, (lowered before c cs).length_eq, ih, both,
        List.length_cons]
      omega

private theorem lowerFrom_concat (before cs : List Char) (c : Char) :
    ∃ front b, lowerFrom before (cs ++ [c]) = front ++ lowerChar b c [] := by
  induction cs generalizing before with
  | nil => exact ⟨[], before, List.append_nil _⟩
  | cons c' cs ih =>
      obtain ⟨front, b, made⟩ := ih (c' :: before)
      refine ⟨lowerChar before c' (cs ++ [c]) ++ front, b, ?_⟩
      rw [List.cons_append, lowerFrom, made, List.append_assoc]

/-- There is no underscore at the front where there was none. -/
theorem head?_of_lowerFrom (first : (lowerFrom before cs).head? = some '_') :
    cs.head? = some '_' := by
  cases cs with
  | nil => cases first
  | cons c cs =>
      have made := lowered before c cs
      rw [lowerFrom, List.head?_append, Option.or_of_isSome] at first
      · rw [made.eq_underscore (List.mem_of_head? first)]
        rfl
      · exact List.isSome_head?.2 made.ne_nil

/-- There is no underscore at the end where there was none. -/
theorem getLast?_of_lowerFrom (last : (lowerFrom before cs).getLast? = some '_') :
    cs.getLast? = some '_' := by
  rcases List.eq_nil_or_concat cs with rfl | ⟨cs, c, rfl⟩
  · cases last
  · obtain ⟨front, b, whole⟩ := lowerFrom_concat before cs c
    have made := lowered b c []
    rw [List.concat_eq_append] at last ⊢
    rw [whole, List.getLast?_append, Option.or_of_isSome] at last
    · rw [made.eq_underscore (List.mem_of_getLast? last), List.getLast?_concat]
    · exact List.getLast?_isSome.2 made.ne_nil

private theorem lowerFrom_of_ascii (inside : ∀ c ∈ cs, c.toNat < 128) (before : List Char) :
    lowerFrom before cs = cs.map Char.toLower := by
  induction cs generalizing before with
  | nil => rfl
  | cons c cs ih =>
      obtain ⟨first, rest⟩ := List.forall_mem_cons.1 inside
      rw [lowerFrom, lowerChar, if_pos first, ih rest]
      rfl

/-- Only an ASCII character has an ASCII lower case. -/
theorem ascii_of_toLower (inside : c.toLower.toNat < 128) : c.toNat < 128 := by
  by_cases capital : c.val ≥ 'A'.val ∧ c.val ≤ 'Z'.val
  · have top : c.toNat ≤ 90 := capital.2
    omega
  · have same : c.toLower = c := dif_neg capital
    rwa [same] at inside

/-- A word of small letters of ASCII other than `k` is the lower case of the same word in any case,
and of nothing else. -/
theorem lowerChars_eq_iff (plain : ∀ d ∈ word, d.toNat < 128 ∧ d ≠ 'k') :
    lowerChars cs = word ↔ cs.map Char.toLower = word := by
  constructor
  · rintro rfl
    have inside : ∀ c ∈ cs, c.toNat < 128 := by
      intro c inside
      obtain ⟨b, a, made⟩ := exists_lowerChar_subset inside []
      exact (lowered b c a).ascii_of_ascii fun d here => plain d (made d here)
    exact (lowerFrom_of_ascii inside []).symm
  · rintro rfl
    refine lowerFrom_of_ascii (fun c inside => ?_) []
    exact ascii_of_toLower (plain c.toLower (List.mem_map_of_mem inside)).1

end WebPreview.Text
