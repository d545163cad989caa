import WebPreview.Proofs.Json.Spelling

/-! # String literals in a script

A string literal between double quotes stands for UTF-16 units. It is read as in strict code,
where nothing is escaped by an octal number. What may be spelled in a JSON document may be
spelled in a script, and is read as the same text (`WebPreview.JavaScript.text?_of_spelled`).
-/

namespace WebPreview.JavaScript

open Json (hexValue? hex4? shortEscape? unitEscape)

/-- Whether the character ends a line of a script. -/
def endsLine (c : Char) : Bool := c == '\n' || c == '\r' || c == '\u2028' || c == '\u2029'

/-- The character that one behind a backslash stands for, most of them for themselves. -/
def escaped : Char → Char
  | 'b' => '\x08'
  | 't' => '\t'
  | 'n' => '\n'
  | 'v' => '\x0b'
  | 'f' => '\x0c'
  | 'r' => '\r'
  | c => c

/-- The number that hexadecimal digits write. -/
def hexNumber? (ds : List Char) : Option Nat :=
  ds.foldlM (fun n d => (hexValue? d).map (n * 16 + ·)) 0

/-- The units for which the escape behind a backslash stands, and its length. A line end that is
escaped stands for nothing. -/
def escape? : List Char → Option (List Nat × Nat)
  | 'u' :: '\x7b' :: cs => do
    let ds := cs.takeWhile (· != '\x7d')
    let n ← hexNumber? ds
    if ds.isEmpty || ds.length == cs.length || 0x10FFFF < n then none
    else some (Units.ofCodePoint n, ds.length + 3)
  | 'u' :: a :: b :: c :: d :: _ => (hex4? a b c d).map fun n => ([n], 5)
  | 'x' :: a :: b :: _ => (hexNumber? [a, b]).map fun n => ([n], 3)
  | '0' :: cs => if cs.head?.any Char.isDigit then none else some ([0], 1)
  | '\r' :: '\n' :: _ => some ([], 2)
  | c :: _ =>
    if endsLine c then some ([], 1)
    else if c.isDigit || c == 'u' || c == 'x' then none
    else some (Units.ofCodePoint (escaped c).toNat, 1)
  | [] => none

/-- The units up to the closing quote, and what follows. The first `skip` characters belong to an
escape that has been read. -/
def units? : (skip : Nat) → List Char → Option (List Nat × List Char)
  | _, [] => none
  | skip + 1, _ :: cs => units? skip cs
  | 0, '"' :: cs => some ([], cs)
  | 0, '\\' :: cs => do
    let (units, length) ← escape? cs
    let (more, rest) ← units? length cs
    return (units ++ more, rest)
  | 0, c :: cs => if c == '\n' || c == '\r' then none else do
    let (more, rest) ← units? 0 cs
    return (Units.ofCodePoint c.toNat ++ more, rest)

/-- The text for which the literal at the front stands, and what follows. -/
def text? : List Char → Option (String × List Char)
  | '"' :: cs => do
    let (units, rest) ← units? 0 cs
    let text ← (Units.chars16 units).mapM id
    return (String.ofList text, rest)
  | _ => none

variable {cs rest text : List Char} {units more : List Nat} {c : Char} {n : Nat}

private theorem units?_skip (front cs : List Char) :
    units? front.length (front ++ cs) = units? 0 cs := by
  induction front with
  | nil => rfl
  | cons c front ih => exact ih

private theorem units?_escape (front : List Char)
    (taken : escape? (front ++ cs) = some (units, front.length))
    (read : units? 0 cs = some (more, rest)) :
    units? 0 ('\\' :: (front ++ cs)) = some (units ++ more, rest) := by
  have skipped := units?_skip front cs
  simp only [units?, taken, Option.bind_eq_bind, Option.bind_some, skipped, read, Option.pure_def]

private theorem units?_plain (printed : ¬c.toNat < 0x20) (quote : c ≠ '"') (backslash : c ≠ '\\')
    (read : units? 0 cs = some (more, rest)) :
    units? 0 (c :: cs) = some (Units.ofCodePoint c.toNat ++ more, rest) := by
  have unbroken : (c == '\n' || c == '\r') = false := by
    rw [Bool.or_eq_false_iff, beq_eq_false_iff_ne, beq_eq_false_iff_ne]
    constructor <;> rintro rfl <;> exact absurd printed (by decide)
  rw [units?]
  · rw [unbroken, read]
    rfl
  · exact quote
  · exact backslash

/-- Every short escape of JSON is one of a script. -/
theorem escape?_short {letter : Char} (stands : shortEscape? letter = some c) (cs : List Char) :
    escape? (letter :: cs) = some (Units.ofCodePoint c.toNat, 1) := by
  unfold shortEscape? at stands
  split at stands <;> cases stands <;> rfl

private theorem escape?_hex {a b c d : Char} (written : hex4? a b c d = some n) (cs : List Char) :
    escape? ('u' :: a :: b :: c :: d :: cs) = some ([n], 5) := by
  rw [escape?]
  · rw [written]
    rfl
  · rintro rfl
    cases written

private theorem units?_unitEscape (narrow : n < 0x10000) (read : units? 0 cs = some (more, rest)) :
    units? 0 (unitEscape n ++ cs) = some (n :: more, rest) := by
  have written := Json.hex4?_digitChar narrow
  have taken := escape?_hex written cs
  rw [Json.unitEscape_eq narrow]
  exact units?_escape ['u', _, _, _, _] taken read

private theorem units?_unitEscapes (narrow : ∀ n ∈ units, n < 0x10000)
    (read : units? 0 cs = some (more, rest)) :
    units? 0 (units.flatMap unitEscape ++ cs) = some (units ++ more, rest) := by
  induction units with
  | nil => exact read
  | cons n units ih =>
      rw [List.forall_mem_cons] at narrow
      rw [List.flatMap_cons, List.append_assoc, List.cons_append]
      exact units?_unitEscape narrow.1 (ih narrow.2)

private theorem units?_spells (spells : Json.Spells text c)
    (read : units? 0 cs = some (more, rest)) :
    units? 0 (text ++ cs) = some (Units.ofCodePoint c.toNat ++ more, rest) := by
  cases spells with
  | plain printed quote backslash => exact units?_plain printed quote backslash read
  | short stands => exact units?_escape [_] (escape?_short stands cs) read
  | units => exact units?_unitEscapes (fun n unit => Units.lt_of_mem_ofCodePoint unit) read

private theorem units?_spelled (spelled : Json.Spelled text cs) (rest : List Char) :
    units? 0 (text ++ '"' :: rest) = some (Units.ofChars cs, rest) := by
  induction spelled with
  | nil => rfl
  | cons first _ ih =>
      rw [List.append_assoc, Units.ofChars, List.flatMap_cons]
      exact units?_spells first ih

/-- However a text is spelled in JSON, a script reads the same text. -/
theorem text?_of_spelled {s : String} (spelled : Json.Spelled text s.toList) (rest : List Char) :
    text? ('"' :: (text ++ '"' :: rest)) = some (s, rest) := by
  have whole (cs : List Char) : (cs.map some).mapM id = some cs := by
    induction cs with
    | nil => rfl
    | cons c cs ih => rw [List.map_cons, List.mapM_cons, ih]; rfl
  simp only [text?, units?_spelled spelled, Option.bind_eq_bind, Option.bind_some,
    Units.chars16_ofChars, whole, Option.pure_def, String.ofList_toList]

end WebPreview.JavaScript
