import WebPreview.Selection

/-! # Validation

What would keep a source set from being previewed, without building anything: a file that the
framework needs is not there, or the page has no place for the style sheet or the script.
-/

namespace WebPreview.Validation

/-- There is no tag for the style sheet. -/
def noStyleTag (name : String) : String :=
  indexFile ++ " has no <link rel=\"stylesheet\" href=\"" ++ name ++ "\"> tag; "
    ++ name ++ " will not be applied"

/-- There is no tag for the script. -/
def noScriptTag (name : String) : String :=
  indexFile ++ " has no <script> tag for " ++ name ++ "; it will not run"

/-- The fault of a value that names no framework, when it is asked for an identifier. -/
def noIdentifier (v : Json) : Raised :=
  .other "AttributeError" ("'" ++ v.typeName ++ "' object has no attribute 'value'")

/-- Why the files cannot be chosen, in words for the one who edits them. The file that the error is
about tells what is missing. -/
def chooseProblem (framework : Except Raised Framework) (e : PreviewError) :
    Except Raised String := do
  if e.file = indexFile then return indexFile ++ " is required"
  if e.file = unknownFile then return e.message
  return "An entry file is required for " ++ (← framework).id ++ " projects (" ++ e.message ++ ")"

/-- The script that the page has to have a tag for. -/
def scriptFile (s : Selection) : Option SourceFile := s.companion.or s.entry

/-- What has no place on the page. -/
def markerProblems (s : Selection) : List String :=
  let page := s.markup.content
  let style := s.style.toList.filterMap fun file =>
    if (Markers.find? page s.markers.style).isNone then some (noStyleTag file.name) else none
  let script := (scriptFile s).toList.filterMap fun file =>
    if (Markers.find? page s.markers.script).isNone then some (noScriptTag file.name) else none
  style ++ script

/-- Looks for all that would keep the files from being previewed with what a value names. -/
def check (room : Nat) (framework : Json) (files : SourceSet) : Except Raised (List String) :=
  match Framework.ofValue room framework with
  | .error (.preview e) => return [← chooseProblem (.error (noIdentifier framework)) e]
  | .error fault => .error fault
  | .ok framework =>
    match Selection.resolve framework files with
    | .error e => return [← chooseProblem (.ok framework) e.toPreviewError]
    | .ok s => return markerProblems s

/-- All that a check finds with what a text names. -/
def problems (framework : String) (files : SourceSet) : List String :=
  match check usualRoom (.str framework) files with
  | .ok problems => problems
  | .error _ => []

end WebPreview.Validation
