import Mathlib.Data.List.Basic
import WebPreview.Bytes.Units
import WebPreview.Json.Printer
import WebPreview.Json.Reader

/-! # How a text may be spelled between quotes

A character stands in a literal for itself, is escaped by a letter, or is escaped by its UTF-16
units. Whichever of these is chosen for each character, the text is read back
(`WebPreview.Json.readText_spelled`).
-/

namespace WebPreview

namespace Units

/-- The units of a code point. -/
def ofCodePoint (n : Nat) : List Nat :=
  if n < 0x10000 then [n] else [0xD800 + (n - 0x10000) / 0x400, 0xDC00 + (n - 0x10000) % 0x400]

/-- The units of a text. -/
def ofChars (cs : List Char) : List Nat := cs.flatMap fun c => ofCodePoint c.toNat

private theorem ofCodePoint_of_lt {n : Nat} (narrow : n < 0x10000) :
    ofCodePoint n = [n] := if_pos narrow

private theorem ofCodePoint_of_not_lt {n : Nat} (wide : ¬n < 0x10000) :
    ofCodePoint n = [0xD800 + (n - 0x10000) / 0x400, 0xDC00 + (n - 0x10000) % 0x400] :=
  if_neg wide

private theorem toNat_cases (c : Char) :
    c.toNat < 0xD800 ∨ 0xDFFF < c.toNat ∧ c.toNat < 0x110000 := c.valid

/-- The code units of a character have sixteen bits. -/
theorem lt_of_mem_ofCodePoint {c : Char} {n : Nat} (unit : n ∈ ofCodePoint c.toNat) :
    n < 0x10000 := by
  have valid := toNat_cases c
  by_cases narrow : c.toNat < 0x10000
  · rw [ofCodePoint_of_lt narrow, List.mem_singleton] at unit
    omega
  · rw [ofCodePoint_of_not_lt narrow, List.mem_cons, List.mem_singleton] at unit
    omega

private theorem ofNat_pair {c : Char} (wide : ¬c.toNat < 0x10000) :
    Char.ofNat (0x10000 + (0xD800 + (c.toNat - 0x10000) / 0x400 - 0xD800) * 0x400 +
      (0xDC00 + (c.toNat - 0x10000) % 0x400 - 0xDC00)) = c := by
  have same : 0x10000 + (0xD800 + (c.toNat - 0x10000) / 0x400 - 0xD800) * 0x400 +
      (0xDC00 + (c.toNat - 0x10000) % 0x400 - 0xDC00) = c.toNat := by
    omega
  rw [same, Char.ofNat_toNat]

private theorem chars16_ofCodePoint_append (c : Char) (units : List Nat) :
    chars16 (ofCodePoint c.toNat ++ units) = some c :: chars16 units := by
  have valid := toNat_cases c
  by_cases narrow : c.toNat < 0x10000
  · have scalar : scalar? c.toNat = some c := by
      rw [scalar?, if_pos (show c.toNat.isValidChar from c.valid), Char.ofNat_toNat]
    rw [ofCodePoint_of_lt narrow, List.singleton_append]
    cases units with
    | nil => exact congrArg (· :: []) scalar
    | cons next units =>
        have whole : ¬(0xD800 ≤ c.toNat ∧ c.toNat < 0xDC00 ∧ 0xDC00 ≤ next ∧ next < 0xE000) := by
          omega
        rw [chars16, if_neg whole, scalar]
  · have halves : 0xD800 ≤ 0xD800 + (c.toNat - 0x10000) / 0x400 ∧
        0xD800 + (c.toNat - 0x10000) / 0x400 < 0xDC00 ∧
        0xDC00 ≤ 0xDC00 + (c.toNat - 0x10000) % 0x400 ∧
        0xDC00 + (c.toNat - 0x10000) % 0x400 < 0xE000 := by
      omega
    rw [ofCodePoint_of_not_lt narrow, List.cons_append, List.singleton_append, chars16,
      if_pos halves, ofNat_pair narrow]

/-- A text is read back from its units. -/
theorem chars16_ofChars (cs : List Char) : chars16 (ofChars cs) = cs.map some := by
  induction cs with
  | nil => rfl
  | cons c cs ih =>
      rw [ofChars, List.flatMap_cons, chars16_ofCodePoint_append, ← ofChars, ih, List.map_cons]

end Units

namespace Json

private theorem toList_hex_of_lt {n : Nat} (digit : n < 16) (width : Nat) :
    (Text.hex (width + 1) n).toList = List.replicate width '0' ++ [Nat.digitChar n] := by
  simp only [Text.hex, Nat.toDigits_of_lt_base digit, List.length_singleton, Nat.add_sub_cancel,
    String.toList_ofList]

private theorem toList_hex_succ (width n : Nat) :
    (Text.hex (width + 2) n).toList =
      (Text.hex (width + 1) (n / 16)).toList ++ [Nat.digitChar (n % 16)] := by
  by_cases digit : n < 16
  · have none : n / 16 = 0 := by omega
    have zero : (0 : Nat) < 16 := by omega
    rw [none, toList_hex_of_lt digit, toList_hex_of_lt zero, Nat.mod_eq_of_lt digit,
      List.replicate_succ']
    rfl
  · have more := Nat.toDigits_of_base_le (b := 16) (n := n) (by omega) (by omega)
    simp only [Text.hex, more, List.length_append, List.length_singleton, Nat.reduceSubDiff,
      String.toList_ofList, List.append_assoc]

/-- The escape of a code unit is its four hexadecimal digits. -/
theorem unitEscape_eq {n : Nat} (narrow : n < 0x10000) :
    unitEscape n = ['\\', 'u', Nat.digitChar (n / 4096), Nat.digitChar (n / 256 % 16),
      Nat.digitChar (n / 16 % 16), Nat.digitChar (n % 16)] := by
  have first : n / 16 / 16 / 16 < 16 := by omega
  rw [unitEscape, toList_hex_succ, toList_hex_succ, toList_hex_succ, toList_hex_of_lt first]
  simp only [List.replicate_zero, List.nil_append, List.cons_append, Nat.div_div_eq_div_mul]

private theorem hexValue?_digitChar {n : Nat} (digit : n < 16) :
    hexValue? (Nat.digitChar n) = some n := by
  have digits : ∀ n < 16, hexValue? (Nat.digitChar n) = some n := by decide
  exact digits n digit

/-- Four hexadecimal digits read as the number that they spell. -/
theorem hex4?_digitChar {n : Nat} (narrow : n < 0x10000) :
    hex4? (Nat.digitChar (n / 4096)) (Nat.digitChar (n / 256 % 16)) (Nat.digitChar (n / 16 % 16))
      (Nat.digitChar (n % 16)) = some n := by
  have whole : ((n / 4096 * 16 + n / 256 % 16) * 16 + n / 16 % 16) * 16 + n % 16 = n := by omega
  have first := hexValue?_digitChar (n := n / 4096) (by omega)
  have second := hexValue?_digitChar (n := n / 256 % 16) (by omega)
  have third := hexValue?_digitChar (n := n / 16 % 16) (by omega)
  have fourth := hexValue?_digitChar (n := n % 16) (by omega)
  simp only [hex4?, first, second, third, fourth, Option.bind_eq_bind, Option.bind_some,
    Option.pure_def, whole]

/-- One way to write a character between quotes. -/
inductive Spells : List Char → Char → Prop
  | plain {c : Char} (printed : ¬c.toNat < 0x20) (quote : c ≠ '"') (backslash : c ≠ '\\') :
      Spells [c] c
  | short {letter c : Char} (stands : shortEscape? letter = some c) : Spells ['\\', letter] c
  | units (c : Char) : Spells ((Units.ofCodePoint c.toNat).flatMap unitEscape) c

/-- One way to write a text between quotes. -/
inductive Spelled : List Char → List Char → Prop
  | nil : Spelled [] []
  | cons {text more cs : List Char} {c : Char} (first : Spells text c) (rest : Spelled more cs) :
      Spelled (text ++ more) (c :: cs)

/-- If each character is spelled, the spellings one behind the other spell the text. -/
theorem spelled_flatMap {spell : Char → List Char} (each : ∀ c, Spells (spell c) c)
    (cs : List Char) : Spelled (cs.flatMap spell) cs := by
  induction cs with
  | nil => exact .nil
  | cons c cs ih =>
      rw [List.flatMap_cons]
      exact .cons (each c) ih

/-- An escaped character is spelled. -/
theorem spells_escapeChar (c : Char) : Spells (escapeChar c) c := by
  by_cases short : c ∈ ['"', '\\', '\n', '\r', '\t', '\x0c', '\x08']
  · simp only [List.mem_cons, List.not_mem_nil, or_false] at short
    rcases short with rfl | rfl | rfl | rfl | rfl | rfl | rfl <;> exact .short rfl
  simp only [List.mem_cons, List.not_mem_nil, or_false, not_or] at short
  obtain ⟨quote, backslash, feed, carriage, tab, form, back⟩ := short
  simp only [escapeChar, quote, backslash, feed, carriage, tab, form, back, ↓reduceIte]
  by_cases printed : (decide (0x20 ≤ c.toNat) && decide (c.toNat < 0x7F)) = true
  · rw [if_pos printed]
    simp only [Bool.and_eq_true, decide_eq_true_eq] at printed
    exact .plain (by omega) quote backslash
  · rw [if_neg printed]
    have units := Spells.units c
    by_cases narrow : c.toNat < 0x10000
    · rw [if_pos narrow]
      rwa [Units.ofCodePoint_of_lt narrow, List.flatMap_singleton] at units
    · rw [if_neg narrow]
      rwa [Units.ofCodePoint_of_not_lt narrow, List.flatMap_cons, List.flatMap_singleton] at units

/-- What escapes are written in. -/
def escapeAlphabet : List Char := "\\\"/bfnrtu0123456789acde".toList

private theorem mem_escapeAlphabet_of_units {c d : Char}
    (member : d ∈ (Units.ofCodePoint c.toNat).flatMap unitEscape) : d ∈ escapeAlphabet := by
  obtain ⟨n, unit, member⟩ := List.mem_flatMap.1 member
  have digits : ∀ k < 16, Nat.digitChar k ∈ escapeAlphabet := by decide
  have narrow := Units.lt_of_mem_ofCodePoint unit
  rw [unitEscape_eq narrow] at member
  simp only [List.mem_cons, List.not_mem_nil, or_false] at member
  rcases member with rfl | rfl | rfl | rfl | rfl | rfl
  · decide
  · decide
  all_goals exact digits _ (by omega)

/-- A character stands for itself, or for it stands an escape. -/
theorem Spells.plain_or_escape {text : List Char} {c : Char} (spells : Spells text c) :
    (text = [c] ∧ ¬c.toNat < 0x20 ∧ c ≠ '"' ∧ c ≠ '\\') ∨
      (∃ more, text = '\\' :: more) ∧ ∀ d ∈ text, d ∈ escapeAlphabet := by
  cases spells with
  | plain printed quote backslash => exact .inl ⟨rfl, printed, quote, backslash⟩
  | short stands =>
      refine .inr ⟨⟨_, rfl⟩, List.forall_mem_cons.2 ⟨by decide, List.forall_mem_singleton.2 ?_⟩⟩
      unfold shortEscape? at stands
      split at stands <;> cases stands <;> decide
  | units =>
      refine .inr ⟨?_, fun d member => mem_escapeAlphabet_of_units member⟩
      by_cases narrow : c.toNat < 0x10000
      · rw [Units.ofCodePoint_of_lt narrow, List.flatMap_singleton]
        exact ⟨_, rfl⟩
      · rw [Units.ofCodePoint_of_not_lt narrow, List.flatMap_cons]
        exact ⟨_, rfl⟩

variable {start cs after text : List Char} {found : List (Option Char)} {c z : Char}
  {waiting : Option Nat}

private theorem readString_plain (printed : ¬c.toNat < 0x20) (quote : c ≠ '"')
    (backslash : c ≠ '\\') (read : readString start none cs = .ok (found, after)) :
    readString start none (c :: cs) = .ok (some c :: found, after) := by
  rw [readString]
  · rw [if_neg printed, read]
    rfl
  · intro _ _ _ _ _ _ same
    exact absurd same backslash
  · exact quote
  · intro same
    exact absurd same backslash
  · intro _ _ same
    exact absurd same backslash

private theorem readString_short {letter : Char} (stands : shortEscape? letter = some c)
    (read : readString start none cs = .ok (found, after)) :
    readString start none ('\\' :: letter :: cs) = .ok (some c :: found, after) := by
  rw [readString]
  · rw [stands, read]
    rfl
  · rintro _ _ _ _ _ _ rfl
    cases stands

/-- An escape by a number is only taken for one if something follows. -/
theorem readString_unitEscape {n : Nat} {complete : List (Option Char)} {left : Option Nat}
    (narrow : n < 0x10000) (joined : joinUnit waiting n = (complete, left))
    (read : readString start left (z :: cs) = .ok (found, after)) :
    readString start waiting (unitEscape n ++ z :: cs) = .ok (complete ++ found, after) := by
  rw [unitEscape_eq narrow]
  simp only [List.cons_append, List.nil_append]
  rw [readString]
  simp only [hex4?_digitChar narrow, joined, read]
  rfl

private theorem joinUnit_toNat (narrow : c.toNat < 0x10000) :
    joinUnit none c.toNat = ([some c], none) := by
  have valid := Units.toNat_cases c
  have whole : isHighHalf c.toNat = false ∧ isLowHalf c.toNat = false := by
    simp only [isHighHalf, isLowHalf, Bool.and_eq_false_iff, decide_eq_false_iff_not]
    omega
  simp only [joinUnit, whole, Bool.false_eq_true, ↓reduceIte, List.nil_append, Char.ofNat_toNat]

private theorem joinUnit_high (n : Nat) (bound : n < 0x400) :
    joinUnit none (0xD800 + n) = ([], some (0xD800 + n)) := by
  have half : isHighHalf (0xD800 + n) = true := by
    simp only [isHighHalf, Bool.and_eq_true, decide_eq_true_eq]
    omega
  simp only [joinUnit, half, ↓reduceIte]

private theorem joinUnit_low (wide : ¬c.toNat < 0x10000) :
    joinUnit (some (0xD800 + (c.toNat - 0x10000) / 0x400))
      (0xDC00 + (c.toNat - 0x10000) % 0x400) = ([some c], none) := by
  have half : isLowHalf (0xDC00 + (c.toNat - 0x10000) % 0x400) = true := by
    simp only [isLowHalf, Bool.and_eq_true, decide_eq_true_eq]
    omega
  simp only [joinUnit, half, ↓reduceIte, Units.ofNat_pair wide]

private theorem readString_units (read : readString start none (z :: cs) = .ok (found, after)) :
    readString start none ((Units.ofCodePoint c.toNat).flatMap unitEscape ++ z :: cs) =
      .ok (some c :: found, after) := by
  have valid := Units.toNat_cases c
  by_cases narrow : c.toNat < 0x10000
  · rw [Units.ofCodePoint_of_lt narrow, List.flatMap_singleton]
    exact readString_unitEscape narrow (joinUnit_toNat narrow) read
  · rw [Units.ofCodePoint_of_not_lt narrow, List.flatMap_cons, List.flatMap_singleton,
      List.append_assoc]
    have high := joinUnit_high ((c.toNat - 0x10000) / 0x400) (by omega)
    have low := joinUnit_low narrow
    exact readString_unitEscape (by omega) high (readString_unitEscape (by omega) low read)

private theorem readString_spells (spells : Spells text c)
    (read : readString start none (z :: cs) = .ok (found, after)) :
    readString start none (text ++ z :: cs) = .ok (some c :: found, after) := by
  cases spells with
  | plain printed quote backslash => exact readString_plain printed quote backslash read
  | short stands => exact readString_short stands read
  | units => exact readString_units read

private theorem readString_spelled (spelled : Spelled text cs) (after : List Char) :
    readString start none (text ++ '"' :: after) = .ok (cs.map some, after) := by
  induction spelled with
  | nil => rfl
  | @cons text more cs c first rest ih =>
      -- The closing quote sees to it that something follows.
      obtain ⟨z, tail, follows⟩ : ∃ z tail, more ++ '"' :: after = z :: tail :=
        List.exists_cons_of_ne_nil (by simp)
      rw [follows] at ih
      rw [List.append_assoc, follows, List.map_cons]
      exact readString_spells first ih

variable {r : Rules}

private theorem text?_map_some (cs : List Char) :
    r.text? (cs.map some) = some (String.ofList cs) := by
  have whole : (cs.map some).mapM (fun c : Option Char => c.or r.half) = some cs := by
    induction cs with
    | nil => rfl
    | cons c cs ih =>
        rw [List.map_cons, List.mapM_cons, ih]
        rfl
  rw [Rules.text?, whole]
  rfl

/-- However a text is spelled, it is read back as it was. -/
theorem readText_spelled {s : String} (spelled : Spelled text s.toList) (after : List Char) :
    r.readText start (text ++ '"' :: after) = .ok (s, after) := by
  simp only [Rules.readText, readString_spelled spelled, bind, Except.bind, text?_map_some,
    String.ofList_toList]
  rfl

end Json

end WebPreview
