import WebPreview.Page.Element
import WebPreview.Page.Session
import WebPreview.Pipeline.Run
import WebPreview.ProjectName
import WebPreview.Service.Launch
import WebPreview.Validation

/-! # A run of the page

The page is run from top to bottom on every interaction: it shows its elements, takes what the
widgets give, and changes the session. A click on some buttons ends the run so that the page can
be run again. A block is left however its content ends.
-/

namespace WebPreview.Page

/-- What a run of the page finds: what the widgets give and what the world outside does. A widget
that gives nothing gives what it shows. -/
structure Visit where
  framework : Option String := none
  autoCompile : Option Bool := none
  projectName : Option String := none
  file : Option String := none
  content : Option String := none
  newName : Option String := none
  /-- The labels of the buttons that were clicked. -/
  clicks : List String := []
  clock : String
  engine : ScriptEngine
  transport : Transport

/-- Whether a button was clicked. -/
def Visit.clicked (v : Visit) (b : Button) : Bool := v.clicks.contains b.label

/-- What outlives a run. -/
structure State where
  session : Session := {}
  settings : Settings
  /-- The level that the log is set to, once it is set. -/
  level : Option Level := none

/-- Why a run does not reach its end. -/
inductive Stop where
  /-- The page is to be run again. -/
  | rerun
  | fault (fault : Raised)

/-- A step of a run. -/
abbrev Run (α : Type) := ExceptT Stop (StateT State (Traced PageEvent)) α

namespace Run

/-- Leaves an event behind. -/
def emit (event : PageEvent) : Run Unit := ExceptT.lift (StateT.lift (Traced.emit event))

/-- Puts an element on the page. -/
def display (element : Element) : Run Unit := emit (.shown element)

/-- Puts the elements of a step into a block. -/
def inside {α : Type} (block : Block) (step : Run α) : Run α := ExceptT.mk do
  let _ ← (emit (.entered block)).run
  let result ← step.run
  let _ ← (emit (.left block)).run
  return result

/-- The session. -/
def session : Run Session := do return (← getThe State).session

/-- Changes the session. -/
def change (f : Session → Session) : Run Unit :=
  modifyThe State fun s => { s with session := f s.session }

/-- Stops with a fault. -/
def fault {α : Type} (className message : String) : Run α :=
  throw (.fault (.other className message))

/-- Breaks the run off so that the page is run again. -/
def restart : Run Unit := do
  emit .restarted
  throw .rerun

/-- A build as a step. What it writes to the log counts if its level is in force. -/
def build {α : Type} (step : Build α) : Run α := do
  let level := (← getThe State).level
  let run := step.run
  for event in run.trace do
    match event with
    | .log record => if Logging.isEnabled level record.level then emit (.work event)
    | _ => emit (.work event)
  match run.value with
  | .ok a => return a
  | .error e => throw (.fault e)

end Run

open Run

/-- The logger of the page. -/
def logger : String := Logging.loggerName "app"

/-- The styles of the page itself. -/
def styles : String := Text.joinLines
  ["",
   "<style>",
   "    .main-header \x7b",
   "        font-size: 2.5rem;",
   "        font-weight: 700;",
   "        color: #1E88E5;",
   "        margin-bottom: 0.5rem;",
   "    \x7d",
   "    .sub-header \x7b",
   "        font-size: 1.1rem;",
   "        color: #666;",
   "        margin-bottom: 2rem;",
   "    \x7d",
   "    .console-line \x7b",
   "        font-family: 'Fira Code', 'Consolas', monospace;",
   "        font-size: 0.85rem;",
   "    \x7d",
   "</style>"]

/-- Shows a button and tells whether it was clicked. -/
def button (v : Visit) (b : Button) : Run Bool := do
  display (.button b)
  return v.clicked b

/-- Adds a line to the console. -/
def note (v : Visit) (level message : String) : Run Unit := change (·.note v.clock level message)

/-- The framework that was chosen, or the one the session has. -/
def chooseFramework (v : Visit) : Run Framework := do
  let current := (← session).framework
  let ids := Framework.all.map Framework.id
  match ids.idxOf? current with
  | none => fault "ValueError" (Text.quoted current ++ " is not in list")
  | some index =>
    display (.choice "Framework" ids (some (Framework.all.map Framework.title)) index)
    match Framework.ofId? (v.framework.getD current) with
    | some framework => return framework
    | none => fault "StopIteration" ""

/-- The part of the page beside the project. -/
def sidebar (v : Visit) (config : Config) : Run Unit := do
  display (.header "Framework")
  let framework ← chooseFramework v
  display (.caption framework.description)
  change (·.choose framework)
  if ← button v .loadStarter then
    change (·.loadStarter framework)
    note v "info" ("Loaded " ++ framework.id ++ " starter")
    restart
  display .divider
  display (.header "Build")
  let auto := (← session).autoCompile
  display (.switch "Compile on every edit" auto)
  change ({ · with autoCompile := v.autoCompile.getD auto })
  match config.compilerUrl with
  | some url => display (.text ("🛰️ Compile service: `" ++ url ++ "`"))
  | none => display (.text "🧩 In-process builds only")
  display (.text ("📁 Files: " ++ toString (← session).files.size))
  display .divider
  let name := (← session).projectName
  display (.field "Project name" name none)
  change ({ · with projectName := v.projectName.getD name })
  if ← button v .clearConsole then
    change ({ · with console := [] })
    restart

/-- The editor of the chosen file. -/
def fileEditor (v : Visit) (key : String) (names : List String) : Run Unit := do
  display (.choice "File" names none (names.idxOf key))
  let selected := v.file.getD key
  change ({ · with selected := some selected })
  match (← session).files.get? selected with
  | none => fault "KeyError" (Text.quoted selected)
  | some file =>
    display (.editor (selected ++ " (" ++ SourceFile.language selected ++ ")") file.content
      ("editor_" ++ (← session).framework ++ "_" ++ selected))
    change (·.edit selected (v.content.getD file.content))

/-- Adds the file that was named, if it was. -/
def addFile (v : Visit) (typed : String) : Run Unit := do
  let name := Text.trim typed
  if name = "" then display (.warning "Enter a file name first.")
  else if (← session).files.contains name then
    display (.warning (name ++ " already exists."))
  else
    change (·.add (.ofName name))
    note v "info" ("Added " ++ name)
    restart

/-- The row that new files are added by. -/
def addRow (v : Visit) : Run Unit := do
  display (.columns (.weighted [3, 1]))
  inside (.column 0) (display (.field "New file name" "" (some "App.jsx")))
  inside (.column 1) do
    if ← button v .add then addFile v (v.newName.getD "")

/-- The button that takes the chosen file away. -/
def removeRow (v : Visit) (key : String) : Run Unit := do
  if ← button v (.remove key) then
    change (·.remove key)
    note v "info" ("Removed " ++ key)
    restart

/-- The files of the project and what can be done to them. -/
def files (v : Visit) : Run Unit := do
  change (·.reselect)
  let s ← session
  match s.selected with
  | some key => fileEditor v key s.files.names
  | none => display (.info "📭 No files yet. Add one below.")
  addRow v
  if s.selected.isSome then
    match (← session).selected with
    | some key => removeRow v key
    | none => return

/-- Builds the project and keeps the outcome. -/
def compile (v : Visit) (config : Config) : Run Unit := do
  let s ← session
  build (Build.log .debug logger ("Compiling " ++ s.framework ++ " project with "
    ++ toString s.files.size ++ " files"))
  let compiler := config.remote?.map fun remote => remote.compiler v.transport
  let outcome ← build (Pipeline.compile v.engine compiler s.framework s.files)
  change ({ · with outcome := some outcome })
  match outcome with
  | .success html =>
    note v "info" ("Compiled " ++ s.framework ++ " project (" ++ toString html.length ++ " bytes)")
  | .failure reason => note v "error" reason.line

/-- The last outcome. -/
def outcome : Run Unit := do
  match (← session).outcome with
  | none => display (.info "👆 Compile the project to see the preview.")
  | some (.failure reason) =>
    display (.error ("**" ++ reason.file ++ "**: " ++ reason.message))
  | some (.success html) => display (.preview html)

/-- The sign that stands before a console line. -/
def icon : (level : String) → String
  | "info" => "ℹ️"
  | "warning" => "⚠️"
  | "error" => "❌"
  | _ => ""

/-- A console line as markup. -/
def ConsoleLine.html (line : ConsoleLine) : String :=
  "<div class=\"console-line\">" ++ line.time ++ " " ++ icon line.level ++ " " ++ line.message
    ++ "</div>"

/-- The console. -/
def console : Run Unit := do
  let lines := (← session).console
  if lines.isEmpty then display (.caption "Console is empty.")
  else (lastItems shownConsoleLines lines).forM fun line => display (.markup line.html)

/-- The archive of the project. -/
def archive (files : SourceSet) : Run (List ArchiveEntry) :=
  match Archive.entries files with
  | .ok entries => return entries
  | .error .emptyName => fault "IndexError" "string index out of range"
  | .error .longName => fault "error" "ushort format requires 0 <= number <= 65535"

/-- What can be taken away. -/
def downloads : Run Unit := do
  let s ← session
  let name := ProjectName.ofTitle s.projectName
  display (.columns (.equal 2))
  inside (.column 0) do
    display (.archive "📥 Download project ZIP" (← archive s.files) (name ++ ".zip"))
  inside (.column 1) do
    let html := s.outcome.bind Outcome.document?
    display (.document "📄 Download compiled HTML" (html.getD "") (name ++ ".html") html.isNone)

/-- The column that shows the project. -/
def projectColumn (v : Visit) : Run Unit := do
  display (.subheader "📝 Files")
  files v
  let s ← session
  match Validation.check usualRoom (.str s.framework) s.files with
  | .ok problems => problems.forM fun problem => display (.warning problem)
  | .error why => throw (.fault why)

/-- The column that shows the outcome. -/
def previewColumn (v : Visit) (config : Config) : Run Unit := do
  display (.subheader "👁️ Preview")
  let clicked ← button v .compile
  if clicked || (← session).autoCompile then
    display (.spinner "Compiling...")
    inside .spinner (compile v config)
  outcome

/-- The page under a configuration. -/
def body (v : Visit) (config : Config) : Run Unit := do
  modifyThe State fun s => { s with level := some (Logging.levelOfName config.logLevel) }
  inside .sidebar (sidebar v config)
  display (.columns (.equal 2))
  inside (.column 0) (projectColumn v)
  inside (.column 1) (previewColumn v config)
  display .divider
  display (.tabs ["🧾 Console", "📥 Export"])
  inside (.tab 0) console
  inside (.tab 1) downloads

/-- The configuration that is kept, or the one that the settings give. -/
def config : Run (Except ConfigError Config) := do
  let (settings, result) := (← getThe State).settings.config
  modifyThe State fun s => { s with settings }
  return result.map Prod.snd

/-- The whole page. Without a configuration there is nothing below the title. -/
def page (v : Visit) : Run Unit := do
  display (.window "previewkit" "🖥️" "wide")
  display (.markup styles)
  display (.markup "<p class=\"main-header\">🖥️ previewkit</p>")
  display (.markup
    "<p class=\"sub-header\">Live previews for vanilla, React, Vue and Svelte projects</p>")
  match ← config with
  | .error (.unsettable e) => fault "ValueError" e.message
  | .error e => display (.error ("⚠️ Configuration Error\n\n" ++ e.message))
  | .ok config => body v config

/-- Runs the page once. -/
def run (v : Visit) (s : State) : Traced PageEvent (Except Stop Unit × State) := (page v).run.run s

end WebPreview.Page
