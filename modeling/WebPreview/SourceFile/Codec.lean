import WebPreview.Json.Shown
import WebPreview.Schema.Issue
import WebPreview.SourceFile

/-! # Source files as JSON

A source file is an object with a name, a content and a kind. The content may be left out, and so
may the kind, which the name then tells; a kind that counts as absent is treated as left out.
-/

namespace WebPreview

open Schema

namespace FileKind

/-- A kind by its identifier. -/
def decode : Json → Checked FileKind
  | .str id =>
    match ofId? id with
    | some kind => .ok kind
    | none => .fail (.notMember (all.map FileKind.id))
  | _ => .fail (.notMember (all.map FileKind.id))

end FileKind

namespace SourceFile

/-- What the model is called in messages. -/
def modelName : String := "FileRecord"

/-- The kind of an object: the one it states, or else the one that its name tells. -/
def decodeKind (v : Json) : Checked FileKind :=
  if (v.field "kind").isTruthy || !(v.field "name").isTruthy then
    .required v "kind" FileKind.decode
  else match v.field "name" with
    | .str name => .ok (FileKind.ofName name)
    | other => .error (.nameIsNoText other.typeName)

/-- A source file from its object. -/
def decode (v : Json) : Checked SourceFile :=
  match v with
  | .obj _ =>
    (Checked.both (.required v "name" .text)
      (.both (.optional v "content" "" .text) (decodeKind v))).map
      fun (name, content, kind) => ⟨name, kind, content⟩
  | _ => .fail (.notModel modelName)

/-- Puts a value into a field in place. No field of a source file takes one. -/
def assign (_ : SourceFile) (name : String) (_ : Json) : Checked SourceFile :=
  .below name (.fail .frozen)

/-- The object of a source file. -/
def toJson (f : SourceFile) : Json :=
  .ofTexts [("name", f.name), ("content", f.content), ("kind", f.kind.id)]

end SourceFile

end WebPreview
