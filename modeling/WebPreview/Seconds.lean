import WebPreview.Decimal.Layout

/-! # Time limits

A number of seconds, given as a whole number or with a fraction.
-/

namespace WebPreview

/-- A number of seconds. -/
inductive Seconds where
  | whole (n : Int)
  | real (x : Float)

namespace Seconds

/-- The number in full. A whole number has no point. -/
def full : Seconds → String
  | whole n => toString n
  | real x => Decimal.fullText x

/-- Half-way between the greatest float and the next power of two: from here on a whole number is
too large for a float. -/
def wholeBound : Nat := Nat.pow 2 1024 - Nat.pow 2 970

/-- Whether there is a float for the number. -/
def fits : Seconds → Bool
  | whole n => n.natAbs < wholeBound
  | real _ => true

/-- The number with six digits at most. -/
def short : Seconds → String
  | whole n => Decimal.shortText (Float.ofInt n)
  | real x => Decimal.shortText x

end Seconds

end WebPreview
