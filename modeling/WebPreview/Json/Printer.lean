import WebPreview.Decimal.Layout
import WebPreview.Json.Basic
import WebPreview.Text.Quoted

/-! # Writing JSON

A value as one line of ASCII without blanks between tokens. A number that is none, or infinite, is
written as the word that the reader takes. In a text the quote, the backslash and five controls
have short escapes; any other character outside the printable part of ASCII is written by its
UTF-16 units.
-/

namespace WebPreview.Json

open Text

/-- A UTF-16 unit by its number. -/
def unitEscape (n : Nat) : List Char := '\\' :: 'u' :: (hex 4 n).toList

/-- How one character stands in a string literal. -/
def escapeChar (c : Char) : List Char :=
  if c = '"' then ['\\', '"']
  else if c = '\\' then ['\\', '\\']
  else if c = '\n' then ['\\', 'n']
  else if c = '\r' then ['\\', 'r']
  else if c = '\t' then ['\\', 't']
  else if c = '\x0c' then ['\\', 'f']
  else if c = '\x08' then ['\\', 'b']
  else
    let n := c.toNat
    if 0x20 ≤ n && n < 0x7F then [c]
    else if n < 0x10000 then unitEscape n
    else unitEscape (0xD800 + (n - 0x10000) / 0x400) ++ unitEscape (0xDC00 + (n - 0x10000) % 0x400)

/-- The string literal of a text. -/
def quote (s : String) : String :=
  String.ofList ('"' :: s.toList.flatMap escapeChar ++ ['"'])

/-- A number with a fraction or an exponent. -/
def floatText (x : Float) : String :=
  if x.isNaN then "NaN"
  else if x.isInf then (if x < 0.0 then "-Infinity" else "Infinity")
  else Decimal.fullText x

mutual

/-- The value as one line. -/
def print : Json → String
  | .null => "null"
  | .bool b => if b then "true" else "false"
  | .int n => toString n
  | .float x => floatText x
  | .str s => quote s
  | .arr items => "[" ++ String.intercalate "," (printItems items) ++ "]"
  | .obj fields => "\x7b" ++ String.intercalate "," (printFields fields) ++ "\x7d"

/-- The items of a list, each as one line. -/
def printItems : List Json → List String
  | [] => []
  | v :: vs => print v :: printItems vs

/-- The fields of an object, each as one line. -/
def printFields : List (String × Json) → List String
  | [] => []
  | (name, v) :: fields => (quote name ++ ":" ++ print v) :: printFields fields

end

end WebPreview.Json
