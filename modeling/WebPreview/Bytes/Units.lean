/-! # UTF-16 and UTF-32

Texts as units of two or four bytes, in either order of the bytes. Half of a surrogate pair, which
is no character, may stand among the characters of a text; nothing is put in its place.
-/

namespace WebPreview.Units

/-- Two bytes as a number. -/
def pair (bigFirst : Bool) (a b : UInt8) : Nat :=
  if bigFirst then a.toNat * 256 + b.toNat else b.toNat * 256 + a.toNat

/-- The units of two bytes. Bytes left over are a fault. -/
def units16? (bigFirst : Bool) : List UInt8 → Option (List Nat)
  | [] => some []
  | [_] => none
  | a :: b :: bytes => (units16? bigFirst bytes).map (pair bigFirst a b :: ·)

/-- The units of four bytes. Bytes left over are a fault. -/
def units32? (bigFirst : Bool) : List UInt8 → Option (List Nat)
  | [] => some []
  | a :: b :: c :: d :: bytes =>
    let first := pair bigFirst a b
    let second := pair bigFirst c d
    let unit := if bigFirst then first * 65536 + second else second * 65536 + first
    (units32? bigFirst bytes).map (unit :: ·)
  | _ => none

/-- The character of a code point, if it is one. -/
def scalar? (n : Nat) : Option Char := if n.isValidChar then some (Char.ofNat n) else none

/-- The characters of UTF-16 units. -/
def chars16 : List Nat → List (Option Char)
  | [] => []
  | [n] => [scalar? n]
  | high :: low :: rest =>
    if 0xD800 ≤ high ∧ high < 0xDC00 ∧ 0xDC00 ≤ low ∧ low < 0xE000 then
      some (Char.ofNat (0x10000 + (high - 0xD800) * 0x400 + (low - 0xDC00))) :: chars16 rest
    else scalar? high :: chars16 (low :: rest)

/-- The text of UTF-16 bytes. -/
def decode16? (bigFirst : Bool) (bytes : List UInt8) : Option (List (Option Char)) :=
  (units16? bigFirst bytes).map chars16

/-- The text of UTF-32 bytes. A number beyond the last code point is a fault. -/
def decode32? (bigFirst : Bool) (bytes : List UInt8) : Option (List (Option Char)) :=
  (units32? bigFirst bytes).bind fun units =>
    if units.all (· ≤ 0x10FFFF) then some (units.map scalar?) else none

end WebPreview.Units
