import WebPreview.Decimal.Read
import WebPreview.Json.Basic
import WebPreview.Text.Find

/-! # Reading JSON

A JSON document from its characters. Besides the standard's grammar the words `NaN`, `Infinity`
and `-Infinity` are numbers. A field that comes twice keeps its first place and its last value.
How many containers may stand in one another is set by rules; a container that holds nothing does
not count. The rules also say whether half of a surrogate pair, which is no character, is refused
or replaced.

Where reading fails, the rest of the text at that point is reported: an unclosed string is
reported from its opening quote, a number or a word that is none from its first character, and a
faulty code point escape from its letter.
-/

namespace WebPreview.Json

open Text

/-- Why a text is no JSON document. -/
inductive ReadFault where
  /-- Nothing that the grammar allows stands at the front of `rest`. -/
  | malformed (rest : List Char)
  /-- Too many containers stand in one another. -/
  | tooDeep (inArray : Bool)
  /-- A whole number has too many digits. -/
  | tooLong
deriving DecidableEq, Repr

/-- The characters that may stand between tokens. -/
def isGap (c : Char) : Bool := c == ' ' || c == '\t' || c == '\n' || c == '\r'

/-- What is left after the characters between tokens. -/
def skipGap (cs : List Char) : List Char := cs.dropWhile isGap

/-- The value of a hexadecimal digit. -/
def hexValue? (c : Char) : Option Nat :=
  if c.isDigit then some (c.toNat - '0'.toNat)
  else if 'a' ≤ c && c ≤ 'f' then some (c.toNat - 'a'.toNat + 10)
  else if 'A' ≤ c && c ≤ 'F' then some (c.toNat - 'A'.toNat + 10)
  else none

/-- The number that four hexadecimal digits write. -/
def hex4? (a b c d : Char) : Option Nat := do
  let a ← hexValue? a
  let b ← hexValue? b
  let c ← hexValue? c
  let d ← hexValue? d
  return ((a * 16 + b) * 16 + c) * 16 + d

/-- The character that a short escape stands for. -/
def shortEscape? : Char → Option Char
  | '"' => some '"'
  | '\\' => some '\\'
  | '/' => some '/'
  | 'b' => some '\x08'
  | 'f' => some '\x0c'
  | 'n' => some '\n'
  | 'r' => some '\r'
  | 't' => some '\t'
  | _ => none

/-- Whether the number is the first half of a surrogate pair. -/
def isHighHalf (n : Nat) : Bool := 0xD800 ≤ n && n < 0xDC00

/-- Whether the number is the second half of a surrogate pair. -/
def isLowHalf (n : Nat) : Bool := 0xDC00 ≤ n && n < 0xE000

/-- A UTF-16 unit after the one, if any, that waits for its second half: what is complete now, with
nothing in the place of half a pair, and the half that waits then. -/
def joinUnit (waiting : Option Nat) (n : Nat) : List (Option Char) × Option Nat :=
  let alone := fun (before : List (Option Char)) =>
    if isHighHalf n then (before, some n)
    else if isLowHalf n then (before ++ [none], none)
    else (before ++ [some (Char.ofNat n)], none)
  match waiting with
  | none => alone []
  | some high =>
    if isLowHalf n then
      ([some (Char.ofNat (0x10000 + (high - 0xD800) * 0x400 + (n - 0xDC00)))], none)
    else alone [none]

/-- What stands for a half that waits in vain. -/
def unjoined (waiting : Option Nat) : List (Option Char) := waiting.toList.map fun _ => none

/-- The characters up to the closing quote, with nothing in the place of half a surrogate pair, and
what follows. `start` is the text from the opening quote on, and `waiting` the first half of a
pair just before. -/
def readString (start : List Char) :
    (waiting : Option Nat) → List Char → Except ReadFault (List (Option Char) × List Char)
  | waiting, '\\' :: 'u' :: a :: b :: c :: d :: z :: cs =>
    match hex4? a b c d with
    | some n => do
      let (complete, waiting) := joinUnit waiting n
      let (rest, after) ← readString start waiting (z :: cs)
      return (complete ++ rest, after)
    | none => .error (.malformed ('u' :: a :: b :: c :: d :: z :: cs))
  | _, [] => .error (.malformed start)
  | waiting, '"' :: cs => .ok (unjoined waiting, cs)
  | _, ['\\'] => .error (.malformed start)
  | waiting, '\\' :: c :: cs =>
    match shortEscape? c with
    | some decoded => do
      let (rest, after) ← readString start none cs
      return (unjoined waiting ++ some decoded :: rest, after)
    | none => .error (.malformed (if c = 'u' then c :: cs else '\\' :: c :: cs))
  | waiting, c :: cs =>
    if c.toNat < 0x20 then .error (.malformed (c :: cs)) else do
      let (rest, after) ← readString start none cs
      return (unjoined waiting ++ some c :: rest, after)

/-- What a reader lets pass. -/
structure Rules where
  /-- How many containers may stand in one another. -/
  depth : Nat
  /-- What stands for half of a surrogate pair, if it is not refused. -/
  half : Option Char

/-- The text of characters that were read, if the rules let it pass. -/
def Rules.text? (r : Rules) (cs : List (Option Char)) : Option String :=
  (cs.mapM fun (c : Option Char) => c.or r.half).map String.ofList

/-- The text up to the closing quote, and what follows. -/
def Rules.readText (r : Rules) (start cs : List Char) :
    Except ReadFault (String × List Char) := do
  let (found, rest) ← readString start none cs
  match r.text? found with
  | some s => return (s, rest)
  | none => .error (.malformed start)

/-- A run of digits at the front, in order, and the rest. -/
def digits (cs : List Char) : List Char × List Char :=
  (cs.takeWhile Char.isDigit, cs.dropWhile Char.isDigit)

/-- The value that decimal digits write. -/
def natOfDigits (ds : List Char) : Nat := ds.foldl (fun n c => n * 10 + (c.toNat - '0'.toNat)) 0

/-- The digits after a point, if both are there. -/
def fraction (cs : List Char) : List Char × List Char :=
  match cs with
  | '.' :: r => match digits r with
    | ([], _) => ([], cs)
    | (ds, rest) => (ds, rest)
  | _ => ([], cs)

/-- The power of ten after its letter, if it is complete. -/
def powerOfTen (cs : List Char) : Option Int × List Char :=
  match cs with
  | c :: r =>
    if c == 'e' || c == 'E' then
      match Decimal.exponent? r with
      | some (e, rest) => (some e, rest)
      | none => (none, cs)
    else (none, cs)
  | [] => (none, cs)

/-- A number without sign. It is whole if it has neither a fraction nor an exponent. -/
def magnitude? (cs : List Char) : Option ((Nat ⊕ Float) × List Char) :=
  let whole? : Option (List Char × List Char) := match cs with
    | '0' :: r => some (['0'], r)
    | _ => match digits cs with
      | ([], _) => none
      | (ds, rest) => some (ds, rest)
  whole?.map fun (whole, rest) =>
    let (places, rest) := fraction rest
    let (power, rest) := powerOfTen rest
    if places.isEmpty && power.isNone then (.inl (natOfDigits whole), rest)
    else
      let exponent := power.getD 0 - (places.length : Int)
      (.inr (Decimal.toFloat (natOfDigits (whole ++ places)) exponent), rest)

/-- The least number that has too many digits. -/
def longNumber : Nat := Nat.pow 10 Decimal.maxWholeDigits

/-- A number or a word at the front. -/
def readAtom (cs : List Char) : Except ReadFault (Json × List Char) :=
  let word (w : String) (v : Json) : Option (Json × List Char) :=
    (after? w.toList cs).map fun rest => (v, rest)
  let number : Option (Json × List Char) := match cs with
    | '-' :: r => (magnitude? r).map fun
      | (.inl n, rest) => (.int (-(n : Int)), rest)
      | (.inr x, rest) => (.float (-x), rest)
    | r => (magnitude? r).map fun
      | (.inl n, rest) => (.int n, rest)
      | (.inr x, rest) => (.float x, rest)
  let atom := word "null" .null
    <|> word "true" (.bool true)
    <|> word "false" (.bool false)
    <|> word "NaN" (.float (0.0 / 0.0))
    <|> word "Infinity" (.float (1.0 / 0.0))
    <|> word "-Infinity" (.float (-1.0 / 0.0))
    <|> number
  match atom with
  | some (.int n, rest) => if longNumber ≤ n.natAbs then .error .tooLong else .ok (.int n, rest)
  | some found => .ok found
  | none => .error (.malformed cs)

/-- Takes a value off the front and gives what is left. -/
abbrev ItemReader := List Char → Except ReadFault (Json × List Char)

/-- Items separated by commas, up to the closing bracket. `bound` is at least their number. -/
def readItems (item : ItemReader) :
    (bound : Nat) → List Char → Except ReadFault (List Json × List Char)
  | 0, cs => .error (.malformed cs)
  | bound + 1, cs => do
    let (v, rest) ← item cs
    match skipGap rest with
    | ']' :: rest => return ([v], rest)
    | ',' :: rest => do
      let (vs, rest) ← readItems item bound (skipGap rest)
      return (v :: vs, rest)
    | rest => .error (.malformed rest)

/-- Fields separated by commas, up to the closing brace. `bound` is at least their number. -/
def readFields (r : Rules) (item : ItemReader) :
    (bound : Nat) → List Char → Except ReadFault (List (String × Json) × List Char)
  | 0, cs => .error (.malformed cs)
  | bound + 1, '"' :: cs => do
    let (name, rest) ← r.readText ('"' :: cs) cs
    match skipGap rest with
    | ':' :: rest => do
      let (v, rest) ← item (skipGap rest)
      match skipGap rest with
      | '\x7d' :: rest => return ([(name, v)], rest)
      | ',' :: rest => do
        let (fields, rest) ← readFields r item bound (skipGap rest)
        return ((name, v) :: fields, rest)
      | rest => .error (.malformed rest)
    | rest => .error (.malformed rest)
  | _ + 1, cs => .error (.malformed cs)

/-- A value at the front whose items are read by `item`. -/
def readWith (r : Rules) (item : (inArray : Bool) → ItemReader) (cs : List Char) :
    Except ReadFault (Json × List Char) :=
  match cs with
  | '"' :: rest => do
    let (s, rest) ← r.readText cs rest
    return (.str s, rest)
  | '[' :: rest =>
    match skipGap rest with
    | ']' :: rest => .ok (.arr [], rest)
    | rest => do
      let (items, rest) ← readItems (item true) rest.length.succ rest
      return (.arr items, rest)
  | '\x7b' :: rest =>
    match skipGap rest with
    | '\x7d' :: rest => .ok (.obj [], rest)
    | rest => do
      let (fields, rest) ← readFields r (item false) rest.length.succ rest
      return (.obj (Named.ofPairs fields), rest)
  | _ => readAtom cs

/-- A value at the front, with at most `depth` containers in one another. -/
def readValue (r : Rules) : (depth : Nat) → ItemReader
  | 0, cs => readWith r (fun inArray _ => .error (.tooDeep inArray)) cs
  | depth + 1, cs => readWith r (fun _ => readValue r depth) cs

/-- The document that the whole text is. -/
def readChars (r : Rules) (cs : List Char) : Except ReadFault Json := do
  let (v, rest) ← readValue r r.depth (skipGap cs)
  match skipGap rest with
  | [] => return v
  | rest => .error (.malformed rest)

/-- The rules where a bound on the depth is kept tight. -/
def tightRules : Rules := ⟨200, none⟩

/-- The rules elsewhere. -/
def wideRules : Rules := ⟨940, none⟩

/-- The same rules, with a character in the place of half a surrogate pair. -/
def mendingRules : Rules := { wideRules with half := some (Char.ofNat 0xFFFD) }

/-- Reads a document by the tight rules. -/
def ofStrict? (s : String) : Option Json :=
  match readChars tightRules s.toList with
  | .ok v => some v
  | .error _ => none

end WebPreview.Json
