import WebPreview.Decimal.Read
import WebPreview.Proofs.Text.Boundaries
import WebPreview.Proofs.Text.LowerCase

/-! # Texts that say no number

One of the doubles is no number. Rounding never makes it, and scaling by a power of ten makes it
only of itself, so digits are never read as it (`WebPreview.Decimal.isNaN_toFloat`). Only a word is:
a text is read as no number if and only if it spells the word for it
(`WebPreview.Decimal.isNaN_iff_saysNoNumber`).

The double is neither above zero nor at most zero (`Float.not_le_zero_iff`).
-/

namespace Float.Model.UnpackedFloat

variable {spec : Format}

private theorem isNaN_unpack_iff (b : BitVec spec.numBits) :
    (unpack spec b).isNaN = true ↔ unpackExponent b = -1#_ ∧ unpackMantissa b ≠ 0#_ := by
  unfold unpack
  dsimp only
  by_cases ones : unpackExponent b = -1#_
  · rw [if_pos ones]
    by_cases none : unpackMantissa b = 0#_
    · rw [if_pos none]
      exact iff_of_false Bool.false_ne_true fun bits => bits.2 none
    · rw [if_neg none]
      exact iff_of_true rfl ⟨ones, none⟩
  · refine iff_of_false ?_ fun bits => ones bits.1
    rw [if_neg ones]
    by_cases tiny : unpackExponent b = 0#_
    · rw [if_pos tiny]
      by_cases none : unpackMantissa b = 0#_
      · rw [dif_pos none]
        exact Bool.false_ne_true
      · rw [dif_neg none]
        exact Bool.false_ne_true
    · rw [if_neg tiny]
      exact Bool.false_ne_true

/-- Packing keeps whether a value is a number. -/
theorem isNaN_unpack_pack (u : UnpackedFloat) :
    (unpack .binary64 (pack .binary64 u)).isNaN = u.isNaN := by
  cases u with
  | notANumber => rfl
  | infinity s => cases s <;> rfl
  | zero s => cases s <;> rfl
  | finite s m e positive =>
      apply Bool.eq_false_iff.2
      rw [ne_eq, isNaN_unpack_iff]
      unfold pack
      dsimp only
      split
      next => simp [packedInfinity]
      next small =>
        split
        next =>
          -- the exponent of a normal number has a bit that is zero
          rw [unpackExponent_packComponents]
          intro ⟨ones, _⟩
          have bits := congrArg BitVec.toNat ones
          rw [BitVec.toNat_ofNat, Nat.mod_eq_of_lt (by omega), BitVec.neg_one_eq_allOnes,
            BitVec.toNat_allOnes] at bits
          omega
        next => simp

private theorem isNaN_roundWithAccuracy (s : Sign) (m : Nat) (e : Int) (a : Accuracy) :
    (roundWithAccuracy spec s m e a).isNaN = false :=
  -- the mantissa may have been rounded to zero, and the result is a number either way
  (apply_dite isNaN _ _ _).trans (ite_self false)

private theorem isNaN_normalize (m e : Int) (s : Sign) : (normalize spec m e s).isNaN = false := by
  unfold normalize
  split
  · exact isNaN_roundWithAccuracy ..
  · rfl
  · exact isNaN_roundWithAccuracy ..

private theorem isNaN_mul_finite (u : UnpackedFloat) (s : Sign) {m : Nat} (e : Int)
    (positive : 0 < m) :
    (mul spec u (.finite s m e positive)).isNaN = u.isNaN := by
  cases u with
  | finite => exact isNaN_roundWithAccuracy ..
  | _ => rfl

private theorem isNaN_div_finite (u : UnpackedFloat) (s : Sign) {m : Nat} (e : Int)
    (positive : 0 < m) :
    (div spec u (.finite s m e positive)).isNaN = u.isNaN := by
  cases u with
  | finite => exact isNaN_roundWithAccuracy ..
  | _ => rfl

private theorem isNaN_ofScientific (m : Nat) (e : Int) : (ofScientific spec m e).isNaN = false := by
  fun_cases ofScientific spec m e with
  | case4 => exact isNaN_mul_finite ..
  | case5 => exact isNaN_div_finite ..
  | _ => rfl

end Float.Model.UnpackedFloat

namespace Float

open Model

variable {x y : Float}

private theorem isNaN_pack (u : UnpackedFloat) : (Float.ofModel (.pack u)).isNaN = u.isNaN :=
  UnpackedFloat.isNaN_unpack_pack u

private theorem isNaN_neg (x : Float) : (-x).isNaN = x.isNaN := by
  refine (isNaN_pack x.toModel.unpack.neg).trans ?_
  change x.toModel.unpack.neg.isNaN = x.toModel.unpack.isNaN
  cases x.toModel.unpack <;> rfl

private theorem isNaN_toFloat (n : UInt64) : n.toFloat.isNaN = false :=
  (isNaN_pack _).trans (UnpackedFloat.isNaN_normalize ..)

private theorem ordinary_powersOfTen :
    ∀ y ∈ exactlyRepresentablePowersOfTen, y.isFinite = true ∧ (y == 0.0) = false := by
  decide +kernel

private theorem unpack_powerOfTen (power : y ∈ exactlyRepresentablePowersOfTen) :
    ∃ s m e positive, y.toModel.unpack = .finite s m e positive := by
  obtain ⟨bounded, nonzero⟩ := ordinary_powersOfTen y power
  change y.toModel.unpack.isFinite = true at bounded
  change y.toModel.unpack.beq (.zero .positive) = false at nonzero
  cases value : y.toModel.unpack with
  | finite s m e positive => exact ⟨s, m, e, positive, rfl⟩
  | zero s =>
      rw [value] at nonzero
      cases nonzero
  | infinity s =>
      rw [value] at bounded
      cases bounded
  | notANumber =>
      rw [value] at bounded
      cases bounded

private theorem isNaN_mul_powerOfTen (x : Float) (power : y ∈ exactlyRepresentablePowersOfTen) :
    (x * y).isNaN = x.isNaN := by
  obtain ⟨s, m, e, positive, value⟩ := unpack_powerOfTen power
  refine (isNaN_pack (UnpackedFloat.mul _ x.toModel.unpack y.toModel.unpack)).trans ?_
  rw [value]
  exact UnpackedFloat.isNaN_mul_finite ..

private theorem isNaN_div_powerOfTen (x : Float) (power : y ∈ exactlyRepresentablePowersOfTen) :
    (x / y).isNaN = x.isNaN := by
  obtain ⟨s, m, e, positive, value⟩ := unpack_powerOfTen power
  refine (isNaN_pack (UnpackedFloat.div _ x.toModel.unpack y.toModel.unpack)).trans ?_
  rw [value]
  exact UnpackedFloat.isNaN_div_finite ..

private theorem isNaN_ofScientific (m : Nat) (s : Bool) (e : Nat) :
    (Float.ofScientific m s e).isNaN = false := by
  unfold Float.ofScientific
  split
  next =>
    dsimp only
    split
    · rw [isNaN_div_powerOfTen _ (Array.getElem_mem _), isNaN_toFloat]
    · rw [isNaN_mul_powerOfTen _ (Array.getElem_mem _), isNaN_toFloat]
  next => exact (isNaN_pack _).trans (UnpackedFloat.isNaN_ofScientific ..)

private theorem le_iff : x ≤ y ↔ x.toModel.unpack.le y.toModel.unpack = true := decide_eq_true_iff

private theorem lt_iff : x < y ↔ x.toModel.unpack.lt y.toModel.unpack = true := decide_eq_true_iff

/-- What is not at most zero is above zero, or no number. -/
theorem not_le_zero_iff : ¬x ≤ 0.0 ↔ 0.0 < x ∨ x.isNaN = true := by
  rw [le_iff, lt_iff]
  change ¬x.toModel.unpack.le (.zero .positive) = true ↔
    (UnpackedFloat.zero .positive).lt x.toModel.unpack = true ∨ x.toModel.unpack.isNaN = true
  have neither : ¬(false = true ∨ false = true) := fun either => either.elim nofun nofun
  cases x.toModel.unpack with
  | notANumber => exact iff_of_true Bool.false_ne_true (.inr rfl)
  | zero s => exact iff_of_false (fun above => above rfl) neither
  | infinity s =>
      cases s with
      | positive => exact iff_of_true Bool.false_ne_true (.inl rfl)
      | negative => exact iff_of_false (fun above => above rfl) neither
  | finite s m e positive =>
      cases s with
      | positive => exact iff_of_true Bool.false_ne_true (.inl rfl)
      | negative => exact iff_of_false (fun above => above rfl) neither

/-- What is above zero is a number. -/
theorem not_isNaN_of_pos (positive : 0.0 < x) : x.isNaN = false := by
  rw [lt_iff] at positive
  change x.toModel.unpack.isNaN = false
  cases value : x.toModel.unpack with
  | notANumber =>
      rw [value] at positive
      cases positive
  | _ => rfl

end Float

namespace WebPreview.Decimal

open Text

variable {cs ds : List Char} {c : Char} {s : String} {x : Float} {negative : Bool}

/-- A mantissa and an exponent always make a number. -/
theorem isNaN_toFloat (mantissa : Nat) (exponent : Int) :
    (toFloat mantissa exponent).isNaN = false := by
  unfold toFloat
  dsimp only
  split
  · rfl
  · split
    · rfl
    · split
      · rfl
      · split <;> exact Float.isNaN_ofScientific ..

private theorem isNaN_of_magnitude? (read : magnitude? cs = some x) : x.isNaN = false := by
  revert read
  fun_cases magnitude? cs with
  | case2 | case3 =>
      intro read
      rw [← Option.some.inj read]
      exact isNaN_toFloat ..
  | _ =>
      intro read
      cases read

/-- What is left of a text without the blanks around it, in plain characters. -/
def core (s : String) : List Char := stripWhile isMargin (s.toList.map plainChar)

/-- The text is the word for no number in either case, with blanks around it and a sign before
it. -/
def SaysNoNumber (s : String) : Prop := (takeSign (core s)).2.map Char.toLower = "nan".toList

instance : DecidablePred SaysNoNumber := fun _ => decEq _ _

private theorem joinDigits_of_not_mem (plain : '_' ∉ cs) (previous : Option Char) :
    joinDigits previous cs = some cs := by
  induction cs generalizing previous with
  | nil => rfl
  | cons c cs ih =>
      rw [List.mem_cons, not_or] at plain
      rw [joinDigits, ih plain.2, Option.map_some]
      intro underscore
      exact absurd underscore.symm plain.1

/-- An underscore is dropped only in front of a digit, and that stays. -/
theorem eq_of_joinDigits {previous : Option Char} (joined : joinDigits previous cs = some ds)
    (wordy : ∀ d ∈ ds, d.isDigit = false) : ds = cs := by
  fun_induction joinDigits previous cs generalizing ds with
  | case1 => exact (Option.some.inj joined).symm
  | case2 p n rest digits ih =>
      rw [Bool.and_eq_true] at digits
      obtain rfl := ih joined wordy
      rw [wordy n List.mem_cons_self] at digits
      cases digits.2
  | case3 => cases joined
  | case4 => cases joined
  | case5 previous c cs other ih =>
      obtain ⟨rest, tail, rfl⟩ := Option.map_eq_some_iff.1 joined
      rw [ih tail fun d inside => wordy d (List.mem_cons_of_mem c inside)]

private theorem isSuffix_takeSign (cs : List Char) : (takeSign cs).2 <:+ cs := by
  fun_cases takeSign cs with
  | case1 cs => exact List.suffix_cons '-' cs
  | case2 cs => exact List.suffix_cons '+' cs
  | case3 => exact List.suffix_rfl

private theorem mem_of_mem_takeSign (inside : c ∈ cs) :
    c = '-' ∨ c = '+' ∨ c ∈ (takeSign cs).2 := by
  revert inside
  fun_cases takeSign cs with
  | case1 cs => exact fun inside => (List.mem_cons.1 inside).imp_right .inr
  | case2 cs => exact fun inside => .inr (List.mem_cons.1 inside)
  | case3 => exact fun inside => .inr (.inr inside)

private theorem ascii_letter : ∀ n < 128, (Char.ofNat n).toLower ∈ "nan".toList →
    (Char.ofNat n).isDigit = false ∧ Char.ofNat n ≠ '_' ∧ isBlank (Char.ofNat n) = false := by
  decide +kernel

/-- A letter of the word is no digit, no underscore and no blank. -/
theorem letter_of_word (word : cs.map Char.toLower = "nan".toList) (inside : c ∈ cs) :
    c.isDigit = false ∧ c ≠ '_' ∧ isBlank c = false := by
  have small : c.toLower ∈ "nan".toList := word ▸ List.mem_map_of_mem inside
  have plain : ("nan".toList.all fun d => d.toNat < 128) = true := by decide +kernel
  have ascii := ascii_of_toLower (of_decide_eq_true (List.all_eq_true.1 plain _ small))
  have facts := ascii_letter c.toNat ascii
  rw [Char.ofNat_toNat] at facts
  exact facts small

private theorem parts?_of_saysNoNumber (said : SaysNoNumber s) :
    parts? s = some (takeSign (core s)) := by
  unfold parts?
  rw [← core, joinDigits_of_not_mem, Option.map_some]
  intro underscore
  obtain sign | sign | letter := mem_of_mem_takeSign underscore
  · exact absurd sign (by decide)
  · exact absurd sign (by decide)
  · exact (letter_of_word said letter).2.1 rfl

private theorem saysNoNumber_iff_of_parts? (found : parts? s = some (negative, cs)) :
    SaysNoNumber s ↔ cs.map Char.toLower = "nan".toList := by
  constructor
  · intro said
    rw [parts?_of_saysNoNumber said, Option.some.injEq] at found
    rw [SaysNoNumber, found] at said
    exact said
  · intro word
    obtain ⟨ds, joined, taken⟩ := Option.map_eq_some_iff.1 found
    have letters : (takeSign ds).2.map Char.toLower = "nan".toList := by
      rw [taken]
      exact word
    have same : ds = core s := by
      apply eq_of_joinDigits joined
      intro d inside
      obtain rfl | rfl | letter := mem_of_mem_takeSign inside
      · rfl
      · rfl
      · exact (letter_of_word letters letter).1
    rw [SaysNoNumber, ← same]
    exact letters

private theorem isNaN_signed (negative : Bool) (size : Float) :
    (if negative then -size else size).isNaN = size.isNaN := by
  cases negative with
  | true => exact Float.isNaN_neg size
  | false => rfl

/-- **No number.** A text that can be read is read as no number if and only if it spells the word
for it. -/
theorem isNaN_iff_saysNoNumber (read : read? s = some x) : x.isNaN = true ↔ SaysNoNumber s := by
  obtain ⟨⟨negative, cs⟩, found, read⟩ := Option.bind_eq_some_iff.1 read
  rw [saysNoNumber_iff_of_parts? found, ← String.ofList_inj, String.ofList_toList]
  dsimp only at read
  split at read
  next infinite =>
    obtain rfl := Option.some.inj read
    rw [isNaN_signed]
    refine iff_of_false Bool.false_ne_true ?_
    intro word
    rw [word] at infinite
    cases infinite
  next =>
    split at read
    next word =>
      obtain rfl := Option.some.inj read
      rw [isNaN_signed]
      exact iff_of_true rfl word
    next other =>
      obtain ⟨size, measured, read⟩ := Option.bind_eq_some_iff.1 read
      obtain rfl := Option.some.inj read
      rw [isNaN_signed, isNaN_of_magnitude? measured]
      exact iff_of_false Bool.false_ne_true other

example : SaysNoNumber " +NaN\n" := by decide

private theorem isBlank_plainChar (blank : isBlank c = true) : isBlank (plainChar c) = true := by
  unfold plainChar
  split
  · exact blank
  · rfl

/-- Blanks say nothing. -/
theorem not_saysNoNumber_of_blank (blank : isBlankText s = true) : ¬SaysNoNumber s := by
  intro said
  obtain ⟨c, letter⟩ : ∃ c, c ∈ (takeSign (core s)).2 := by
    apply List.exists_mem_of_ne_nil
    intro none
    rw [SaysNoNumber, none] at said
    cases said
  have inside : c ∈ core s := (isSuffix_takeSign _).subset letter
  obtain ⟨d, written, rfl⟩ := List.mem_map.1 ((isInfix_stripWhile isMargin _).subset inside)
  have mark := (letter_of_word said letter).2.2
  rw [isBlank_plainChar (List.all_eq_true.1 blank d written)] at mark
  cases mark

end WebPreview.Decimal
