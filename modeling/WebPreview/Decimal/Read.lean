import WebPreview.Text.Classes

/-! # Reading decimals

The value of a decimal mantissa and exponent as the nearest double, and the grammar of a number
written by hand: blanks around it, a sign, digits of any script with single underscores between
them, a point, an exponent, or one of the words for infinity and for no number.
-/

namespace WebPreview.Decimal

open Text

/-- The double nearest to `mantissa · 10 ^ exponent`. Beyond the range of doubles the answer is
infinity or zero whatever the mantissa, and no large power is built. -/
def toFloat (mantissa : Nat) (exponent : Int) : Float :=
  let size : Int := (Nat.toDigits 10 mantissa).length + exponent
  if mantissa = 0 then 0.0
  else if size > 400 then 1.0 / 0.0
  else if size < -400 then 0.0
  else if 0 ≤ exponent then Float.ofScientific mantissa false exponent.toNat
  else Float.ofScientific mantissa true (-exponent).toNat

/-- Reads ASCII digits from the front: their value after `acc`, how many, and the rest. -/
def takeDigits (acc count : Nat) : List Char → Nat × Nat × List Char
  | [] => (acc, count, [])
  | c :: cs =>
    if c.isDigit then takeDigits (acc * 10 + (c.toNat - '0'.toNat)) (count + 1) cs
    else (acc, count, c :: cs)

/-- An exponent after its letter, the sign included. No digit, no exponent. -/
def exponent? (cs : List Char) : Option (Int × List Char) :=
  let (negative, cs) := match cs with
    | '-' :: r => (true, r)
    | '+' :: r => (false, r)
    | r => (false, r)
  match takeDigits 0 0 cs with
  | (_, 0, _) => none
  | (n, _, rest) => some (if negative then -(n : Int) else n, rest)

/-- A number without sign: digits with an optional point and an optional exponent. At least one
digit stands before or after the point. -/
def magnitude? (cs : List Char) : Option Float :=
  let (whole, wholeCount, rest) := takeDigits 0 0 cs
  let (mantissa, places, rest) := match rest with
    | '.' :: r => takeDigits whole 0 r
    | r => (whole, 0, r)
  if wholeCount + places = 0 then none else
  match rest with
  | [] => some (toFloat mantissa (-(places : Int)))
  | c :: r =>
    if c == 'e' || c == 'E' then
      match exponent? r with
      | some (e, []) => some (toFloat mantissa (e - (places : Int)))
      | _ => none
    else none

/-- Drops the underscores that stand between two digits. Any other underscore is an error. -/
def joinDigits (previous : Option Char) : List Char → Option (List Char)
  | [] => some []
  | '_' :: cs =>
    match previous, cs with
    | some p, n :: _ => if p.isDigit && n.isDigit then joinDigits (some '_') cs else none
    | _, _ => none
  | c :: cs => (joinDigits (some c) cs).map (c :: ·)

/-- Digits of other scripts as ASCII digits, and blanks of other scripts as spaces. -/
def plainChar (c : Char) : Char :=
  if c.toNat < 128 then c
  else if isBlank c then ' '
  else match digitValue? c with
    | some d => Char.ofNat ('0'.toNat + d)
    | none => c

/-- The blanks that may stand around a number, once those of other scripts are spaces. -/
def isMargin (c : Char) : Bool := (0x9 ≤ c.toNat && c.toNat ≤ 0xD) || c == ' '

/-- Whether a number is negative, and what follows its sign. -/
def takeSign : List Char → Bool × List Char
  | '-' :: cs => (true, cs)
  | '+' :: cs => (false, cs)
  | cs => (false, cs)

/-- The sign and the rest of a number, without blanks and underscores. -/
def parts? (s : String) : Option (Bool × List Char) :=
  (joinDigits none (stripWhile isMargin (s.toList.map plainChar))).map takeSign

/-- How many digits a whole number may have. -/
def maxWholeDigits : Nat := 4300

/-- The whole number a text spells out, if it does. -/
def readWhole? (s : String) : Option Int := do
  let (negative, digits) ← parts? s
  if digits.isEmpty || !digits.all Char.isDigit || maxWholeDigits < digits.length then none
  let (size, _, _) := takeDigits 0 0 digits
  return if negative then -(size : Int) else size

/-- The number a text spells out, if it does. -/
def read? (s : String) : Option Float := do
  let (negative, cs) ← parts? s
  let word := String.ofList (cs.map Char.toLower)
  let size ←
    if word = "inf" || word = "infinity" then some (1.0 / 0.0)
    else if word = "nan" then some (0.0 / 0.0)
    else magnitude? cs
  return if negative then -size else size

end WebPreview.Decimal
