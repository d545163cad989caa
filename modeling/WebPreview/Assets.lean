import WebPreview.Component
import WebPreview.Event
import WebPreview.Selection

/-! # Script and style of a build

What is written into the page when nothing outside of this process is asked: the script and the
style of a selection.

For React the entry goes through the script engine; if the engine refuses it, the source itself
is taken and left to the runtime in the browser. A Vue component becomes a script by its blocks
alone. A Svelte component cannot run without its compiler, so its companion stands in. Everything
else is taken as it is.
-/

namespace WebPreview

/-- The script and the style that go into a page. -/
structure Assets where
  script : Option String
  style : Option String
  /-- The type of the script element, if it has to have one. -/
  scriptType : Option String := none
  /-- Whether the script is left to a runtime in the browser. -/
  degraded : Bool := false
deriving DecidableEq, Repr

namespace Assets

/-- The logger of this step. -/
def logger : String := "previewkit.pipeline.transformer"

/-- The script type that the runtime in the browser looks for. -/
def runtimeType : String := "text/babel"

/-- A source through the script engine. What the engine refuses becomes an error about the
file. -/
def compileScript (engine : ScriptEngine) (source file : String) : Except Raised String :=
  match engine source with
  | .error (.scriptEngine message) =>
    .error (.preview ⟨.transform, "JSX transform failed: " ++ message, file⟩)
  | result => result

/-- The assets of a React entry. -/
def ofReact (engine : ScriptEngine) (entry : SourceFile) (style : Option String) :
    Build Assets := do
  match compileScript engine entry.content entry.name with
  | .ok code => return ⟨some code, style, none, false⟩
  | .error (.preview ⟨.transform, message, _⟩) =>
    Build.log .warning logger
      (message ++ "; shipping " ++ entry.name ++ " for in-browser transform")
    return ⟨some entry.content, style, some runtimeType, true⟩
  | .error fault => throw fault

/-- Joins the style of the project and that of a component; an empty one does not count. -/
def mergeStyles (file : Option String) (component : String) : Option String :=
  match (file.filter (· != "")).toList ++ (if component = "" then [] else [component]) with
  | [] => file
  | parts => some (String.intercalate "\n" parts)

/-- The script and the style of a selection, built in this process. -/
def ofSelection (engine : ScriptEngine) (s : Selection) : Build Assets :=
  let style := s.style.map (·.content)
  match s.framework, s.entry with
  | _, none => pure ⟨none, style, none, false⟩
  | .vanilla, some entry => pure ⟨some entry.content, style, none, false⟩
  | .react, some entry => ofReact engine entry style
  | .vue, some entry =>
    if s.entryIsComponent then
      let component := Component.ofSource entry.content
      pure ⟨some component.toScript, mergeStyles style component.style, none, false⟩
    else pure ⟨some entry.content, style, none, false⟩
  | .svelte, some entry =>
    match if s.entryIsComponent then s.companion else none with
    | some companion => pure ⟨some companion.content, style, none, false⟩
    | none => pure ⟨some entry.content, style, none, false⟩

end Assets

end WebPreview
