import WebPreview.Json.Reader
import WebPreview.Outcome.Codec
import WebPreview.Text.Classes

/-! # The result of a bundling run

The build script prints its result as one line of JSON, after whatever else was printed: a script
and a style, or an error.
-/

namespace WebPreview

open Schema

/-- What the build script made. -/
structure BuildResult where
  script : String := ""
  style : String := ""
  error : Option Failure := none
deriving DecidableEq, Repr

/-- Why an output holds no result. -/
inductive BuildResult.Fault where
  | noOutput
  | noResult (line : String)
deriving DecidableEq, Repr

namespace BuildResult

/-- How much of a line is told when it is no result. -/
def shownLength : Nat := 200

/-- What is wrong, in words. -/
def Fault.message : Fault → String
  | noOutput => "Toolchain produced no output"
  | noResult line =>
    "Toolchain output is not a build result: " ++ Text.takeFirst shownLength line

/-- What the model is called in messages. -/
def modelName : String := "ToolchainOutput"

/-- An error that may be null. -/
def decodeError : Json → Checked (Option Failure)
  | .null => .ok none
  | v => (Failure.decode v).map some

/-- A result from its object. -/
def decode (v : Json) : Checked BuildResult :=
  match v with
  | .obj _ =>
    (Checked.both (.optional v "script" "" .text)
      (.both (.optional v "style" "" .text) (.optional v "error" none decodeError))).map
      fun (script, style, error) => ⟨script, style, error⟩
  | _ => .fail (.notModel modelName)

/-- The result on a line. -/
def ofLine (line : String) : Except Fault BuildResult :=
  match Json.ofStrict? line with
  | none => .error (.noResult line)
  | some v => (decode v).mapError fun _ => .noResult line

/-- The result in an output: what its last line that is not blank says. -/
def ofOutput (output : String) : Except Fault BuildResult :=
  match ((Text.lines output).filter (!Text.isBlankText ·)).getLast? with
  | none => .error .noOutput
  | some line => ofLine line

end BuildResult

end WebPreview
