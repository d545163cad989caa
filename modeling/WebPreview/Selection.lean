import WebPreview.Framework
import WebPreview.Markers
import WebPreview.SourceFile

/-! # Choosing the files of a build

Which files of a source set a framework is built from: the page, the style sheet, the entry, and
for a component the script that stands in for it. A file of the usual name is preferred; without
it the first file of the right suffix is taken. Files are found by their keys, and markers and
component suffixes look at their names.
-/

namespace WebPreview

/-- The page of every project. -/
def indexFile : String := "index.html"

/-- The usual name of the style sheet. -/
def defaultStyleFile : String := "style.css"

/-- The usual name of the script. -/
def defaultScriptFile : String := "script.js"

namespace Framework

/-- The suffixes an entry may have, those preferred first. -/
def entrySuffixes : Framework → List String
  | vanilla => []
  | react => [".jsx", ".tsx", ".js"]
  | vue => [".vue", ".js"]
  | svelte => [".svelte", ".js"]

/-- The suffix of a component, for the frameworks that have single-file components. -/
def componentSuffix? : Framework → Option String
  | vanilla | react => none
  | vue => some ".vue"
  | svelte => some ".svelte"

end Framework

/-- Why the files of a build cannot be chosen. -/
inductive ResolveError where
  /-- There is no page. -/
  | noIndex
  /-- No file can be the entry. -/
  | noEntry (framework : Framework)
deriving DecidableEq, Repr

namespace ResolveError

/-- What is wrong, in words. -/
def message : ResolveError → String
  | noIndex => indexFile ++ " is required"
  | noEntry f =>
    "No entry file (" ++ String.intercalate " or " f.entrySuffixes ++ ") found for " ++ f.id

/-- The file that is missing. -/
def file : ResolveError → String
  | noIndex => indexFile
  | noEntry _ => defaultScriptFile

/-- The error of the build. -/
def toPreviewError (e : ResolveError) : PreviewError := ⟨.missingEntry, e.message, e.file⟩

end ResolveError

namespace SourceSet

/-- The first file, in order, whose key ends with the suffix. -/
def firstWithSuffix (files : SourceSet) (suffix : String) : Option SourceFile :=
  (files.entries.find? fun p => Text.endsWith p.1 suffix).map Prod.snd

/-- The file under the preferred key, or else the first one with the suffix. -/
def preferred (files : SourceSet) (key suffix : String) : Option SourceFile :=
  (files.get? key).or (files.firstWithSuffix suffix)

/-- The entry of a framework: the first file of its most preferred suffix. -/
def entryFile? (files : SourceSet) (framework : Framework) : Option SourceFile :=
  framework.entrySuffixes.findSome? files.firstWithSuffix

end SourceSet

/-- The files that one build uses. -/
structure Selection where
  framework : Framework
  markup : SourceFile
  style : Option SourceFile
  entry : Option SourceFile
  companion : Option SourceFile
  /-- Where the style and the script go in the page. -/
  markers : Markers := {}
deriving DecidableEq, Repr

namespace Selection

/-- Whether the file is a single-file component of the framework. -/
def isComponent (framework : Framework) (file : SourceFile) : Bool :=
  match framework.componentSuffix? with
  | some suffix => Text.endsWith file.name suffix
  | none => false

/-- Whether the entry is a single-file component. -/
def entryIsComponent (s : Selection) : Bool := s.entry.any (isComponent s.framework)

/-- The markers for a style sheet and for scripts, as far as there are such files. -/
def buildMarkers (style : Option SourceFile) (scripts : List (Option SourceFile)) : Markers :=
  .ofNames (style.map (·.name)) (scripts.filterMap fun file => file.map (·.name))

/-- Chooses the files that a framework is built from. -/
def resolve (framework : Framework) (files : SourceSet) : Except ResolveError Selection := do
  let some markup := files.get? indexFile | .error .noIndex
  let style := files.preferred defaultStyleFile ".css"
  if framework = .vanilla then
    let script := files.preferred defaultScriptFile ".js"
    return ⟨framework, markup, style, script, none, buildMarkers style [script]⟩
  let some entry := files.entryFile? framework | .error (.noEntry framework)
  let companion :=
    if isComponent framework entry then files.preferred defaultScriptFile ".js" else none
  return ⟨framework, markup, style, some entry, companion,
    buildMarkers style [some entry, companion]⟩

end Selection

end WebPreview
