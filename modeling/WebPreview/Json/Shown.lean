import WebPreview.Decimal.Layout
import WebPreview.Json.Reader
import WebPreview.PreviewError
import WebPreview.Text.Quoted

/-! # Values in messages

How a value stands in a message: a text is shown as it is, and everything else in the notation of
lists and tables, with the texts inside quoted. Each value that is not shown as it is takes a call
inside that for the one around it. A value cannot be shown if there is no room for so many calls,
or if a whole number in it has too many digits.
-/

namespace WebPreview.Json

/-- The fault of a value that takes too many calls inside one another. -/
def shownTooDeep : Raised :=
  .other "RecursionError" "maximum recursion depth exceeded while getting the repr of an object"

/-- The fault of a whole number with too many digits. -/
def shownTooLong : Raised :=
  .other "ValueError" ("Exceeds the limit (" ++ toString Decimal.maxWholeDigits
    ++ " digits) for integer string conversion; use sys.set_int_max_str_digits() to increase the"
    ++ " limit")

/-- A text in quotes. -/
def inspectText : (room : Nat) → String → Except Raised String
  | 0, _ => .error shownTooDeep
  | _ + 1, s => .ok (Text.quoted s)

mutual

/-- The value with its texts in quotes. -/
def inspect : (room : Nat) → Json → Except Raised String
  | 0, _ => .error shownTooDeep
  | _ + 1, .null => .ok "None"
  | _ + 1, .bool b => .ok (if b then "True" else "False")
  | _ + 1, .int n => if longNumber ≤ n.natAbs then .error shownTooLong else .ok (toString n)
  | _ + 1, .float x => .ok (Decimal.fullText x)
  | _ + 1, .str s => .ok (Text.quoted s)
  | room + 1, .arr items => do
    return "[" ++ String.intercalate ", " (← inspectItems room items) ++ "]"
  | room + 1, .obj fields => do
    return "\x7b" ++ String.intercalate ", " (← inspectFields room fields) ++ "\x7d"

/-- The items of a list, each with its texts in quotes. -/
def inspectItems (room : Nat) : List Json → Except Raised (List String)
  | [] => .ok []
  | v :: vs => do return (← inspect room v) :: (← inspectItems room vs)

/-- The fields of an object, each with its texts in quotes. -/
def inspectFields (room : Nat) : List (String × Json) → Except Raised (List String)
  | [] => .ok []
  | (name, v) :: fields => do
    return ((← inspectText room name) ++ ": " ++ (← inspect room v))
      :: (← inspectFields room fields)

end

/-- The value as it stands in a message. -/
def text (room : Nat) : Json → Except Raised String
  | .str s => .ok s
  | v => inspect room v

/-- What a value is called where another kind of value was expected. -/
def typeName : Json → String
  | .null => "NoneType"
  | .bool _ => "bool"
  | .int _ => "int"
  | .float _ => "float"
  | .str _ => "str"
  | .arr _ => "list"
  | .obj _ => "dict"

end WebPreview.Json
