import WebPreview.Keyed

/-! # JSON values

A JSON document as a value. Whole numbers and numbers with a fraction or an exponent are told
apart, and the fields of an object keep their order.
-/

namespace WebPreview

/-- A JSON value. -/
inductive Json where
  | null
  | bool (value : Bool)
  | int (value : Int)
  | float (value : Float)
  | str (value : String)
  | arr (items : List Json)
  | obj (fields : List (String × Json))
deriving Inhabited, BEq

namespace Json

/-- Whether the value counts as present: not null, false, zero or empty. -/
def isTruthy : Json → Bool
  | null => false
  | bool b => b
  | int n => n != 0
  | float x => x != 0.0
  | str s => s != ""
  | arr items => !items.isEmpty
  | obj fields => !fields.isEmpty

/-- The value of a field, if this is an object that has it. -/
def field? (name : String) : Json → Option Json
  | obj fields => Named.get? name fields
  | _ => none

/-- The value of a field, null if there is none. -/
def field (name : String) (v : Json) : Json := (v.field? name).getD .null

/-- The text, if this is one. -/
def str? : Json → Option String
  | str s => some s
  | _ => none

/-- An object of text fields. -/
def ofTexts (fields : List (String × String)) : Json := obj (fields.map fun (n, v) => (n, str v))

/-- Whether the value is the whole number `n`: written as one, with a zero fraction, or as the
truth value that stands for it. -/
def equalsInt (n : Int) : Json → Bool
  | int m => m == n
  | float x => x == Float.ofInt n
  | bool b => (if b then 1 else 0) == n
  | _ => false

end Json

end WebPreview
