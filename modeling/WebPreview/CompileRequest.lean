import WebPreview.Pipeline.Run
import WebPreview.SourceFile.Codec

/-! # Compile requests

What the compile service is asked for: a framework, the files and a mode. In a request a file may
be given as its content alone, and a file that leaves out its name has its key for one.
-/

namespace WebPreview

open Schema

/-- What the document is for. -/
inductive Mode where
  | development
  | production
deriving DecidableEq, Repr

namespace Mode

/-- Every mode, in the order in which messages list them. -/
def all : List Mode := [development, production]

/-- The identifier of a mode. -/
def id : Mode → String
  | development => "development"
  | production => "production"

/-- A mode by its identifier. -/
def decode : Json → Checked Mode
  | .str id =>
    match all.find? (·.id == id) with
    | some mode => .ok mode
    | none => .fail (.notOneOf (all.map Mode.id))
  | _ => .fail (.notOneOf (all.map Mode.id))

end Mode

/-- A request to compile a source set. -/
structure CompileRequest where
  /-- The framework, as it is asked for. -/
  framework : String
  files : SourceSet
  mode : Mode := .development
deriving DecidableEq

namespace CompileRequest

/-- What the model is called in messages. -/
def modelName : String := "CompileRequest"

/-- A file of a request in full: a content alone becomes an object, and a name that is left out
becomes the key. -/
def normalize (key : String) : Json → Json
  | .str content => .ofTexts [("name", key), ("content", content)]
  | .obj fields =>
    if ((Json.obj fields).field "name").isTruthy then .obj fields
    else .obj (Named.put "name" (.str key) fields)
  | v => v

/-- The files of a request. -/
def decodeFiles : Json → Checked SourceSet
  | .obj fields =>
    (Checked.all (fields.map fun (key, v) =>
      (Checked.below key (SourceFile.decode (normalize key v))).map fun f => (key, f))).map
      Keyed.ofList
  | _ => .fail .notTable

/-- A request from its object. -/
def decode (v : Json) : Checked CompileRequest :=
  match v with
  | .obj _ =>
    (Checked.both (.required v "framework" .text)
      (.both (.required v "files" decodeFiles)
        (.optional v "mode" Mode.development Mode.decode))).map
      fun (framework, files, mode) => ⟨framework, files, mode⟩
  | _ => .fail (.notModel modelName)

/-- The files of a request as an object. -/
def filesToJson (files : SourceSet) : Json :=
  .obj (files.entries.map fun (key, f) => (key, f.toJson))

/-- The object of a request. -/
def toJson (r : CompileRequest) : Json :=
  .obj [("framework", .str r.framework), ("files", filesToJson r.files), ("mode", .str r.mode.id)]

/-- What a request comes to. -/
def compile (engine : ScriptEngine) (compiler : Option Compiler) (r : CompileRequest) :
    Build Outcome :=
  Pipeline.compile engine compiler r.framework r.files

end CompileRequest

end WebPreview
