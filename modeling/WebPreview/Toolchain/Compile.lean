import WebPreview.Document
import WebPreview.Selection
import WebPreview.Toolchain.Build

/-! # The toolchain as a compiler

Builds the project in containers and puts the script and the style that come out into its page,
the same way as a build in this process does. Whatever goes wrong becomes a failure.
-/

namespace WebPreview.Toolchain

/-- The answer for projects that need no compiler. -/
def nothingToCompile : Failure := ⟨"Nothing to compile for vanilla projects", indexFile⟩

/-- Joins the style of the project and the style that was built. -/
def mergeStyles (file : Option String) (built : String) : Option String :=
  if built = "" then file
  else match file.filter (· != "") with
    | some style => some (style ++ "\n" ++ built)
    | none => some built

/-- The page with a result put in. -/
def document (s : Selection) (result : BuildResult) : String :=
  Document.assemble s.markup.content (some result.script)
    (mergeStyles (s.style.map (·.content)) result.style) s.markers

/-- What a result comes to. -/
def outcome (s : Selection) (result : BuildResult) : Outcome :=
  match result.error with
  | some reason => .failure reason
  | none => .success (document s result)

/-- The name of the entry in the command. -/
def entryName (s : Selection) : String := (s.entry.map (·.name)).getD ""

/-- Builds a source set and says what it came to. A fault of the build's own is a failure; any
other goes on to the caller. -/
def compile (t : Toolchain) (engine : ContainerEngine) (framework : Framework)
    (files : SourceSet) : Build Outcome := do
  if framework = .vanilla then return .failure nothingToCompile
  match Selection.resolve framework files with
  | .error e => return .failure e.toPreviewError.toFailure
  | .ok s =>
    match ← Build.attempt (t.build engine framework (entryName s) files) with
    | .ok result => return outcome s result
    | .error (.preview ⟨.remoteUnavailable, message, file⟩) =>
      Build.log .warning logger ("Toolchain build unavailable: " ++ message)
      return .failure ⟨message, file⟩
    | .error fault => throw fault

/-- The toolchain, for builds to consult. -/
def compiler (t : Toolchain) (engine : ContainerEngine) : Compiler := fun framework files => do
  return some (.outcome (← t.compile engine framework files))

end WebPreview.Toolchain
