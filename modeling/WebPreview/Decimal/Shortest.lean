/-! # The fewest digits that read back

A positive binary number `mantissa · 2 ^ exponent` stands for every real that rounds to it. Among
the decimals in that interval one with the fewest digits is chosen, and of those the nearest.
All arithmetic is exact, on natural numbers.
-/

namespace WebPreview.Decimal

/-- A decimal number `digits · 10 ^ exponent`. -/
structure Scaled where
  digits : Nat
  exponent : Int
deriving DecidableEq, Repr, Inhabited

/-- A positive double: `mantissa · 2 ^ exponent`. The gap below it is half the gap above it when
`narrowBelow` holds. -/
structure Binary where
  mantissa : Nat
  exponent : Int
  narrowBelow : Bool
deriving DecidableEq, Repr

/-- The magnitude in the bits of a finite double. -/
def Binary.ofBits (bits : UInt64) : Binary :=
  let field : Nat := bits.toNat / Nat.pow 2 52 % Nat.pow 2 11
  let fraction : Nat := bits.toNat % Nat.pow 2 52
  if field = 0 then ⟨fraction, -1074, false⟩
  else ⟨Nat.pow 2 52 + fraction, (field : Int) - 1075, fraction == 0 && field > 1⟩

/-- `base ^ exponent` as a fraction. -/
def power (base : Nat) (exponent : Int) : Nat × Nat :=
  if 0 ≤ exponent then (base.pow exponent.toNat, 1) else (1, base.pow (-exponent).toNat)

/-- The interval of reals that read back as the number, in units of `10 ^ place`: the lower end,
the number and the upper end over one denominator. -/
structure Window where
  low : Nat
  value : Nat
  high : Nat
  unit : Nat

/-- The window of a number at a decimal place. -/
def Binary.window (b : Binary) (place : Int) : Window :=
  let (up, down) := power 2 (b.exponent - 2)
  let (tenUp, tenDown) := power 10 place
  let scale := up * tenDown
  { low := (4 * b.mantissa - if b.narrowBelow then 1 else 2) * scale
    value := 4 * b.mantissa * scale
    high := (4 * b.mantissa + 2) * scale
    unit := down * tenUp }

/-- Whether a whole number of units lies in the window. The ends belong to it if `closed`. -/
def Window.holds (w : Window) (closed : Bool) (d : Nat) : Bool :=
  if closed then decide (w.low ≤ d * w.unit) && decide (d * w.unit ≤ w.high)
  else decide (w.low < d * w.unit) && decide (d * w.unit < w.high)

/-- The nearest whole number of units in the window: one of the number's two neighbours. -/
def Window.pick? (w : Window) (closed : Bool) : Option Nat :=
  let below := w.value / w.unit
  let above := below + 1
  match w.holds closed below && decide (0 < below), w.holds closed above with
  | true, true =>
    let under := w.value - below * w.unit
    let beyond := above * w.unit - w.value
    some (if under < beyond || (under == beyond && below % 2 == 0) then below else above)
  | true, false => some below
  | false, true => some above
  | false, false => none

/-- The first place, going down from `place`, whose grid meets the window. -/
def Binary.search (b : Binary) : (steps : Nat) → (place : Int) → Scaled
  | 0, place => ⟨(b.window place).value / (b.window place).unit, place⟩
  | steps + 1, place =>
    match (b.window place).pick? (b.mantissa % 2 == 0) with
    | some digits => ⟨digits, place⟩
    | none => b.search steps (place - 1)

/-- A place above the first digit of the number. -/
def Binary.topPlace (b : Binary) : Int :=
  ((b.mantissa.log2 : Int) + b.exponent) * 30103 / 100000 + 1

/-- The fewest digits that read back as the number. -/
def Binary.shortest (b : Binary) : Scaled :=
  if b.mantissa = 0 then ⟨0, 0⟩ else b.search 20 b.topPlace

/-- The number of decimal digits. -/
def digitCount (n : Nat) : Nat := (Nat.toDigits 10 n).length

/-- The quotient rounded to the nearest whole number, a half to the even one. -/
def roundDiv (num den : Nat) : Nat :=
  let q := num / den
  let r := num % den
  if 2 * r < den || (2 * r == den && q % 2 == 0) then q else q + 1

/-- The number rounded to at most `count` digits; a carry at the front moves the place. -/
def Binary.rounded (b : Binary) (count : Nat) : Scaled :=
  if b.mantissa = 0 then ⟨0, 0⟩ else
    let near (place : Int) : Nat := roundDiv (b.window place).value (b.window place).unit
    let whole (place : Int) : Nat := (b.window place).value / (b.window place).unit
    let top := b.topPlace
    let lead := if whole top = 0 then if whole (top - 1) = 0 then top - 2 else top - 1 else top
    let place : Int := lead - ((count - 1 : Nat) : Int)
    let digits := near place
    if digitCount digits > count then ⟨digits / 10, place + 1⟩ else ⟨digits, place⟩

end WebPreview.Decimal
