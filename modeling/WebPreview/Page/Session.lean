import WebPreview.Outcome
import WebPreview.Starter

/-! # The session of the page

What the page keeps from one run to the next: the project, what is chosen in it, the last outcome,
and the lines of its console. The console keeps the latest lines only.
-/

namespace WebPreview.Page

/-- A line of the page's console. -/
structure ConsoleLine where
  time : String
  level : String
  message : String
deriving DecidableEq, Repr

/-- How many lines the console keeps. -/
def maxConsoleLines : Nat := 200

/-- How many lines of the console are shown. -/
def shownConsoleLines : Nat := 50

/-- The last `n` items. -/
def lastItems {α : Type} (n : Nat) (xs : List α) : List α := xs.drop (xs.length - n)

/-- What the page keeps. -/
structure Session where
  framework : String := Framework.vanilla.id
  files : SourceSet := Starter.files .vanilla
  /-- The key of the file in the editor. -/
  selected : Option String := some "index.html"
  projectName : String := "My preview"
  outcome : Option Outcome := none
  /-- Whether every run compiles. -/
  autoCompile : Bool := true
  console : List ConsoleLine := []

namespace Session

/-- Adds a line to the console. -/
def note (s : Session) (time level message : String) : Session :=
  { s with console := lastItems maxConsoleLines (s.console ++ [⟨time, level, message⟩]) }

/-- The project with the starter of a framework in place of its files. -/
def loadStarter (s : Session) (framework : Framework) : Session :=
  { s with
    framework := framework.id
    files := Starter.files framework
    selected := some "index.html"
    outcome := none }

/-- The project for another framework. What was built before no longer counts. -/
def choose (s : Session) (framework : Framework) : Session :=
  if framework.id = s.framework then s
  else { s with framework := framework.id, outcome := none }

/-- Chooses the first file if the chosen one is not there. -/
def reselect (s : Session) : Session :=
  if (s.selected.map s.files.contains).getD false then s
  else { s with selected := s.files.names.head? }

/-- The file with other content, unless that is the content it has. -/
def edit (s : Session) (key content : String) : Session :=
  match s.files.get? key with
  | some file =>
    if content = file.content then s
    else { s with files := s.files.put key (file.withContent content) }
  | none => s

/-- The project with one more file, which is then the chosen one. -/
def add (s : Session) (file : SourceFile) : Session :=
  { s with files := s.files.put file.name file, selected := some file.name }

/-- The project without a file. -/
def remove (s : Session) (key : String) : Session := { s with files := s.files.erase key }

end Session

end WebPreview.Page
