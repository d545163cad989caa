import WebPreview.Decimal.Shortest

/-! # Writing decimals

How digits and an exponent are laid out as text: with the point in its place where the number is
neither very large nor very small, and otherwise as one digit, the rest and a power of ten.
-/

namespace WebPreview.Decimal

/-- What a written decimal looks like. -/
structure Layout where
  /-- The point stands in its place if at most this many digits are in front of it. -/
  mostBefore : Int
  /-- Whether a whole number keeps a point and a zero. -/
  keepsPoint : Bool

/-- A second count as it is shown: in full up to sixteen digits before the point. -/
def Layout.full : Layout := ⟨16, true⟩

/-- A short form with six digits, without a trailing point. -/
def Layout.short : Layout := ⟨6, false⟩

/-- The exponent with its sign and at least two digits. -/
def exponentText (e : Int) : String :=
  let digits := toString e.natAbs
  (if e < 0 then "-" else "+") ++ (if digits.length < 2 then "0" ++ digits else digits)

/-- `n` zeros. -/
def zeros (n : Nat) : String := String.ofList (List.replicate n '0')

/-- Drops the zeros at the end of the digits and counts them into the exponent. -/
def Scaled.trimmed (s : Scaled) : List Char × Int :=
  let digits := (Nat.toDigits 10 s.digits).reverse
  let kept := digits.dropWhile (· == '0')
  (kept.reverse, s.exponent + (digits.length - kept.length : Nat))

/-- The text of a number that is not negative. -/
def Layout.render (layout : Layout) (s : Scaled) : String :=
  if s.digits = 0 then (if layout.keepsPoint then "0.0" else "0") else
  let (digits, exponent) := s.trimmed
  let point : Int := digits.length + exponent
  if -4 < point && point ≤ layout.mostBefore then
    if point ≤ 0 then "0." ++ zeros (-point).toNat ++ String.ofList digits
    else if exponent ≥ 0 then
      String.ofList digits ++ zeros exponent.toNat ++ (if layout.keepsPoint then ".0" else "")
    else
      String.ofList (digits.take point.toNat) ++ "." ++ String.ofList (digits.drop point.toNat)
  else
    let lead := String.ofList (digits.take 1)
    let rest := String.ofList (digits.drop 1)
    lead ++ (if rest.isEmpty then "" else "." ++ rest) ++ "e" ++ exponentText (point - 1)

/-- The text of a double in a layout, given how its magnitude becomes decimal. -/
def renderWith (layout : Layout) (decimal : Binary → Scaled) (x : Float) : String :=
  let bits := x.toBits
  if x.isNaN then "nan"
  else
    (if bits.toNat ≥ Nat.pow 2 63 then "-" else "")
      ++ if x.isInf then "inf" else layout.render (decimal (Binary.ofBits bits))

/-- The shortest text that reads back as the number. -/
def fullText (x : Float) : String := renderWith .full Binary.shortest x

/-- The number with six digits at most. -/
def shortText (x : Float) : String := renderWith .short (·.rounded 6) x

end WebPreview.Decimal
