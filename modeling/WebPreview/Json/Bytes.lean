import WebPreview.Bytes.Units
import WebPreview.Bytes.Utf8
import WebPreview.Json.Reader

/-! # JSON from bytes

The bytes of a document tell their own encoding: by a mark in front, or by where the zero bytes
are among the first four, since a document starts with two ASCII characters.

Half of a surrogate pair may stand in a document, as bytes or as an escape. A document with such a
half in one of its texts is torn, for that text is none.
-/

namespace WebPreview.Json

/-- Why bytes are no document. -/
inductive BytesFault where
  /-- The bytes are no text, or a number in it has too many digits. -/
  | unreadable
  /-- The text is no document; the position counts characters. -/
  | malformed (position : Nat)
  /-- Too many containers stand in one another. -/
  | tooDeep (inArray : Bool)
deriving DecidableEq, Repr

/-- The text of a document's bytes, with nothing in the place of half of a surrogate pair. -/
def decodeText? (bytes : List UInt8) : Option (List (Option Char)) :=
  match bytes with
  | 0x00 :: 0x00 :: 0xFE :: 0xFF :: rest => Units.decode32? true rest
  | 0xFF :: 0xFE :: 0x00 :: 0x00 :: rest => Units.decode32? false rest
  | 0xFE :: 0xFF :: rest => Units.decode16? true rest
  | 0xFF :: 0xFE :: rest => Units.decode16? false rest
  | 0xEF :: 0xBB :: 0xBF :: rest => Utf8.decodeHalves? [] rest
  | a :: b :: c :: d :: _ =>
    if a = 0 then if b = 0 then Units.decode32? true bytes else Units.decode16? true bytes
    else if b = 0 then
      if c = 0 ∧ d = 0 then Units.decode32? false bytes else Units.decode16? false bytes
    else Utf8.decodeHalves? [] bytes
  | [a, b] =>
    if a = 0 then Units.decode16? true bytes
    else if b = 0 then Units.decode16? false bytes
    else Utf8.decodeHalves? [] bytes
  | _ => Utf8.decodeHalves? [] bytes

/-- The document of a text, with the position of a fault in characters. -/
def ofChars (r : Rules) (cs : List Char) : Except BytesFault Json :=
  match readChars r cs with
  | .ok v => .ok v
  | .error (.malformed rest) => .error (.malformed (cs.length - rest.length))
  | .error (.tooDeep inArray) => .error (.tooDeep inArray)
  | .error .tooLong => .error .unreadable

/-- The document of a text in which every half of a surrogate pair is replaced. -/
def ofMended (cs : List (Option Char)) : Except BytesFault Json :=
  ofChars mendingRules (cs.map fun c => c.getD Utf8.replacement)

/-- The document that the bytes are, unless it is torn. A fault goes before a half. -/
def ofBytes? (bytes : List UInt8) : Option (Except BytesFault Json) :=
  match decodeText? bytes with
  | none => some (.error .unreadable)
  | some cs =>
    match ofMended cs with
    | .error fault => some (.error fault)
    | .ok _ =>
      match cs.mapM id with
      | none => none
      | some cs =>
        match ofChars wideRules cs with
        | .ok v => some (.ok v)
        | .error _ => none

end WebPreview.Json
