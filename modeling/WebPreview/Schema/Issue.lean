import WebPreview.Json.Basic

/-! # What is wrong with a value

Checking a value against what is expected finds all that is wrong with it, in the order of the
fields. Each issue has a place and a cause, and the wording of a cause is a function of its own.
A file name that is no text cannot be looked at for its suffix; it ends the check at once.
-/

namespace WebPreview.Schema

/-- What a value should have been. -/
inductive Cause where
  | missing
  | notText
  | notTable
  /-- No object, where one of the named model is expected. -/
  | notModel (model : String)
  /-- The identifier of no member of an enumeration. -/
  | notMember (identifiers : List String)
  /-- None of the texts that will do. -/
  | notOneOf (texts : List String)
  | notTrue
  | notFalse
  /-- A field of something that never changes. -/
  | frozen
deriving DecidableEq, Repr

/-- Something wrong at a place in a value. -/
structure Issue where
  path : List String
  cause : Cause
deriving DecidableEq, Repr

/-- Alternatives in quotes, with `or` before the last. -/
def alternatives : List String → String
  | [] => ""
  | [a] => "'" ++ a ++ "'"
  | [a, b] => "'" ++ a ++ "' or '" ++ b ++ "'"
  | a :: rest => "'" ++ a ++ "', " ++ alternatives rest

/-- What is wrong, in words. -/
def Cause.message : Cause → String
  | missing => "Field required"
  | notText => "Input should be a valid string"
  | notTable => "Input should be a valid dictionary"
  | notModel model => "Input should be a valid dictionary or instance of " ++ model
  | notMember texts | notOneOf texts => "Input should be " ++ alternatives texts
  | notTrue => "Input should be True"
  | notFalse => "Input should be False"
  | frozen => "Instance is frozen"

/-- Why a value is refused. -/
inductive Rejection where
  /-- All that is wrong, in order. -/
  | issues (found : List Issue)
  /-- A file name is of this type instead of a text. -/
  | nameIsNoText (type : String)
deriving DecidableEq, Repr

/-- A value that passed the check, or why it did not. -/
abbrev Checked (α : Type) := Except Rejection α

namespace Checked

variable {α β : Type}

/-- A single issue at the place under check. -/
def fail (cause : Cause) : Checked α := .error (.issues [⟨[], cause⟩])

/-- Puts what is wrong below a place. -/
def below (place : String) : Checked α → Checked α
  | .error (.issues found) =>
    .error (.issues (found.map fun i => { i with path := place :: i.path }))
  | result => result

/-- Checks both, and finds all that is wrong with either. -/
def both : Checked α → Checked β → Checked (α × β)
  | .ok a, .ok b => .ok (a, b)
  | .error (.nameIsNoText type), _ => .error (.nameIsNoText type)
  | _, .error (.nameIsNoText type) => .error (.nameIsNoText type)
  | .error (.issues found), .error (.issues more) => .error (.issues (found ++ more))
  | .error (.issues found), .ok _ => .error (.issues found)
  | .ok _, .error (.issues found) => .error (.issues found)

/-- Two checks together accept exactly what both accept. -/
theorem both_eq_ok_iff {x : Checked α} {y : Checked β} {a : α} {b : β} :
    both x y = .ok (a, b) ↔ x = .ok a ∧ y = .ok b := by
  rcases x with (_ | _) | _ <;> rcases y with (_ | _) | _ <;> simp [both]

/-- A check below a place accepts what it accepts. -/
theorem below_eq_ok_iff {place : String} {x : Checked α} {a : α} :
    below place x = .ok a ↔ x = .ok a := by
  rcases x with (_ | _) | _ <;> simp [below]

/-- Checks every item, and finds all that is wrong with any. -/
def all : List (Checked α) → Checked (List α)
  | [] => .ok []
  | x :: xs => (both x (all xs)).map fun (a, as) => a :: as

/-- A field that has to be there. -/
def required (v : Json) (name : String) (check : Json → Checked α) : Checked α :=
  below name (match v.field? name with
    | some field => check field
    | none => fail .missing)

/-- A field that has a value of its own when it is not there. -/
def optional (v : Json) (name : String) (absent : α) (check : Json → Checked α) : Checked α :=
  match v.field? name with
  | some field => below name (check field)
  | none => .ok absent

/-- A text. -/
def text : Json → Checked String
  | .str s => .ok s
  | _ => fail .notText

end Checked

/-- What is said of a file name that is no text. -/
def noNameMessage (type : String) : String :=
  "expected str, bytes or os.PathLike object, not " ++ type

end WebPreview.Schema
