import WebPreview.Outcome
import WebPreview.Schema.Issue

/-! # Outcomes as JSON

An outcome is an object of one of two shapes, told apart by a truth value that may be left out.
An object that has both shapes is read as the failure, which has more of its fields.
-/

namespace WebPreview

open Schema

namespace Failure

/-- What the model is called in messages. -/
def modelName : String := "CompileErrorDetail"

/-- A reason from its object. -/
def decode (v : Json) : Checked Failure :=
  match v with
  | .obj _ =>
    (Checked.both (.required v "message" .text) (.optional v "file" unknownFile .text)).map
      fun (message, file) => ⟨message, file⟩
  | _ => .fail (.notModel modelName)

/-- The object of a reason. -/
def toJson (f : Failure) : Json := .ofTexts [("message", f.message), ("file", f.file)]

end Failure

namespace Outcome

/-- What a success is called in messages. -/
def successName : String := "CompileSuccess"

/-- What a failure is called in messages. -/
def failureName : String := "CompileFailure"

/-- A truth value that can only be this one. -/
def decodeFlag (expected : Bool) (v : Json) : Checked Unit :=
  if v.equalsInt (if expected then 1 else 0) then .ok ()
  else .fail (if expected then .notTrue else .notFalse)

/-- A success from its object. -/
def decodeSuccess (v : Json) : Checked Outcome :=
  match v with
  | .obj _ =>
    (Checked.both (.optional v "success" () (decodeFlag true)) (.required v "html" .text)).map
      fun (_, html) => success html
  | _ => .fail (.notModel successName)

/-- A failure from its object. -/
def decodeFailure (v : Json) : Checked Outcome :=
  match v with
  | .obj _ =>
    (Checked.both (.optional v "success" () (decodeFlag false))
      (.required v "error" Failure.decode)).map fun (_, reason) => failure reason
  | _ => .fail (.notModel failureName)

/-- An outcome from its object. What is wrong is told of both shapes. -/
def decode (v : Json) : Checked Outcome :=
  match decodeFailure v with
  | .ok outcome => .ok outcome
  | .error _ =>
    match decodeSuccess v with
    | .ok outcome => .ok outcome
    | .error _ =>
      ((Checked.below successName (decodeSuccess v)).both
        (Checked.below failureName (decodeFailure v))).map Prod.fst

/-- The object of an outcome. -/
def toJson : Outcome → Json
  | success html => .obj [("success", .bool true), ("html", .str html)]
  | failure reason => .obj [("success", .bool false), ("error", reason.toJson)]

end Outcome

end WebPreview
