import WebPreview.Complexity
import WebPreview.Document
import WebPreview.Pipeline.State

/-! # Running the pipeline

A build chooses its files, looks at how complex the entry is, asks the compiler outside of this
process for a complex one, builds in this process otherwise or if the compiler fails, and writes
script and style into the page. The compiler is asked at most once, and nothing that it does ends
the run.
-/

namespace WebPreview.Pipeline

/-- The logger of the pipeline. -/
def logger : String := "previewkit.graph"

/-- The name of a file for the log. -/
def shownName (file : Option SourceFile) : String := (file.map (·.name)).getD "None"

namespace State

/-- Ends the run with a failure and writes it to the log. -/
def failWith (s : State) (reason : Failure) : Build State := do
  Build.log .info logger ("Build failed at " ++ reason.file ++ ": " ++ reason.message)
  return s.fail reason

/-- The framework and the files that a run asks for. -/
def choose (s : State) : Except PreviewError (Framework × Selection) := do
  let framework ← Framework.parse s.frameworkId
  let selection ← (Selection.resolve framework s.files).mapError ResolveError.toPreviewError
  return (framework, selection)

/-- Finds the framework and chooses the files. -/
def resolve (s : State) : Build State := do
  let s := { s with stage := .resolving }
  match s.choose with
  | .error e => s.failWith e.toFailure
  | .ok (framework, selection) =>
    Build.log .debug logger
      ("Resolved " ++ framework.id ++ " build: entry=" ++ shownName selection.entry
        ++ " style=" ++ shownName selection.style)
    return { s with framework := some framework, selection := some selection }

/-- Whether the entry of a selection needs the full compiler. -/
def entryNeedsFullCompile (selection : Selection) : Bool :=
  selection.entry.any fun entry => Complexity.needsFullCompile entry.content selection.framework

/-- Looks at how complex the entry is. -/
def classify (selection : Selection) (s : State) : Build State := do
  let verdict := entryNeedsFullCompile selection
  Build.log .debug logger
    ("Entry " ++ shownName selection.entry ++ " needs full compile: "
      ++ (if verdict then "True" else "False"))
  return { s with stage := .classifying, needsFullCompile := verdict }

/-- What a compiler gives back. A fault that it raises counts as a failure. -/
def consult (compiler : Compiler) (framework : Framework) (files : SourceSet) :
    Build (Option Reply) := do
  Build.emit (.consult framework files)
  match ← Build.attempt (compiler framework files) with
  | .ok reply => return reply
  | .error fault =>
    Build.log .error logger "Out-of-process compiler raised"
    return some (.outcome (.failure
      ⟨"Out-of-process compiler raised: " ++ fault.message, unknownFile⟩))

/-- Asks the compiler for a finished document. -/
def outOfProcess (compiler : Compiler) (selection : Selection) (s : State) : Build State := do
  let reply ← consult compiler selection.framework s.files
  let s := { s with stage := .outOfProcess, remoteOutcome := reply }
  match reply with
  | some (.outcome (.failure reason)) =>
    Build.log .warning logger
      ("Out-of-process compile failed (" ++ reason.message
        ++ "); falling back to in-process build")
    return { s with fallbackUsed := true, errors := s.errors ++ [reason.line] }
  | _ => return s

/-- Builds script and style in this process. -/
def inProcess (engine : ScriptEngine) (selection : Selection) (s : State) : Build State := do
  let s := { s with stage := .inProcess }
  match ← Build.attempt (Assets.ofSelection engine selection) with
  | .ok assets =>
    if assets.degraded then
      Build.log .warning logger "In-process build degraded to runtime transform"
    return { s with assets := some assets }
  | .error (.preview e) => s.failWith e.toFailure
  | .error fault => throw fault

/-- The page of a selection with its script and style. -/
def document (selection : Selection) (assets : Assets) : String :=
  Document.assemble selection.markup.content assets.script assets.style selection.markers
    assets.scriptType

/-- Ends the run with a finished document. -/
def finish (s : State) (html : String) : State :=
  { s with outcome := some (.success html), stage := .done }

/-- Takes the compiler's document, or else writes script and style into the page. -/
def assemble (selection : Selection) (s : State) : State :=
  match s.remoteOutcome, s.assets with
  | some (.outcome (.success html)), _ => s.finish html
  | _, some assets => s.finish (document selection assets)
  | _, none => s

end State

/-- Builds in this process and puts the document together. -/
def runInProcess (engine : ScriptEngine) (selection : Selection) (s : State) : Build State := do
  let s ← s.inProcess engine selection
  match afterInProcess s.stage with
  | .assemble => return s.assemble selection
  | _ => return s

/-- Builds a selection, with the compiler's help where it is needed and there. -/
def runSelection (engine : ScriptEngine) (compiler : Option Compiler) (selection : Selection)
    (s : State) : Build State := do
  let s ← s.classify selection
  match afterClassify s.needsFullCompile compiler.isSome, compiler with
  | .outOfProcess, some compiler =>
    let s ← s.outOfProcess compiler selection
    match afterOutOfProcess s.remoteOutcome with
    | .assemble => return s.assemble selection
    | _ => runInProcess engine selection s
  | _, _ => runInProcess engine selection s

/-- Runs a build from its start to its end. -/
def run (engine : ScriptEngine) (compiler : Option Compiler) (frameworkId : String)
    (files : SourceSet) : Build State := do
  let s ← (State.start frameworkId files).resolve
  match afterResolve s.stage, s.selection with
  | .classify, some selection => runSelection engine compiler selection s
  | _, _ => return s

/-- What a project comes to: one document, or a reason and a file. -/
def compile (engine : ScriptEngine) (compiler : Option Compiler) (frameworkId : String)
    (files : SourceSet) : Build Outcome := do
  let s ← run engine compiler frameworkId files
  return s.outcome.getD (.failure ⟨"Compilation produced no output", unknownFile⟩)

end WebPreview.Pipeline
