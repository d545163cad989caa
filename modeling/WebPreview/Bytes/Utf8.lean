/-! # UTF-8

Bytes are taken one at a time. A byte that cannot go on with the character under way ends it as
malformed and is then taken as the first of another, so every longest start of a character that
is not completed counts as one fault.
-/

namespace WebPreview.Utf8

/-- A character under way: how many bytes are still to come, what the next one may be, and the
bits so far. -/
structure Pending where
  missing : Nat
  low : Nat
  high : Nat
  bits : Nat

/-- What a first byte does: a whole character, the start of one, or a fault. -/
inductive Lead where
  | whole (c : Char)
  | start (p : Pending)
  | fault

/-- What a byte does where no character is under way. -/
def lead (byte : UInt8) : Lead :=
  let b := byte.toNat
  if b < 0x80 then .whole (Char.ofNat b)
  else if b < 0xC2 then .fault
  else if b < 0xE0 then .start ⟨1, 0x80, 0xBF, b - 0xC0⟩
  else if b = 0xE0 then .start ⟨2, 0xA0, 0xBF, 0⟩
  else if b = 0xED then .start ⟨2, 0x80, 0x9F, 0xD⟩
  else if b < 0xF0 then .start ⟨2, 0x80, 0xBF, b - 0xE0⟩
  else if b = 0xF0 then .start ⟨3, 0x90, 0xBF, 0⟩
  else if b < 0xF4 then .start ⟨3, 0x80, 0xBF, b - 0xF0⟩
  else if b = 0xF4 then .start ⟨3, 0x80, 0x8F, 4⟩
  else .fault

/-- The characters of the bytes, with nothing in the place of a fault. -/
def scan : Option Pending → List UInt8 → List (Option Char)
  | none, [] => []
  | some _, [] => [none]
  | pending, byte :: bytes =>
    let fresh (_ : Unit) : List (Option Char) :=
      match lead byte with
      | .whole c => some c :: scan none bytes
      | .start p => scan (some p) bytes
      | .fault => none :: scan none bytes
    match pending with
    | none => fresh ()
    | some p =>
      if p.low ≤ byte.toNat ∧ byte.toNat ≤ p.high then
        let bits := p.bits * 64 + (byte.toNat - 0x80)
        if p.missing ≤ 1 then some (Char.ofNat bits) :: scan none bytes
        else scan (some ⟨p.missing - 1, 0x80, 0xBF, bits⟩) bytes
      else none :: fresh ()

/-- The text that the bytes encode, if they are well formed. -/
def decode? (bytes : List UInt8) : Option (List Char) := (scan none bytes).mapM id

/-- The text that the bytes encode, with nothing in the place of half of a surrogate pair. `front`
are the bytes since the last half, the latest of them first. -/
def decodeHalves? : (front : List UInt8) → List UInt8 → Option (List (Option Char))
  | front, [] => (decode? front.reverse).map fun cs => cs.map some
  | front, 0xED :: b :: c :: bytes =>
    if 0xA0 ≤ b ∧ b ≤ 0xBF ∧ 0x80 ≤ c ∧ c ≤ 0xBF then do
      let before ← decode? front.reverse
      return before.map some ++ none :: (← decodeHalves? [] bytes)
    else decodeHalves? (0xED :: front) (b :: c :: bytes)
  | front, byte :: bytes => decodeHalves? (byte :: front) bytes

/-- What stands for a fault. -/
def replacement : Char := Char.ofNat 0xFFFD

/-- The text that the bytes encode, with every fault replaced. -/
def decodeLossy (bytes : List UInt8) : String :=
  String.ofList ((scan none bytes).map fun c => c.getD replacement)

end WebPreview.Utf8
