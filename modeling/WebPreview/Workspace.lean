import WebPreview.Archive
import WebPreview.Complexity
import WebPreview.SourceFile.Codec
import WebPreview.Starter
import WebPreview.Validation

/-! # A project under edit

A framework and the files, and what can be done to them. The framework is kept as it was named; it
is looked up when it is needed. Content never changes in place: an edit puts a new file where the
old one was.
-/

namespace WebPreview

/-- A project under edit. -/
structure Workspace where
  /-- The framework, as it was named. -/
  framework : String := Framework.vanilla.id
  files : SourceSet := .empty

/-- Why an edit is refused. -/
inductive WorkspaceError where
  | noFile (key : String)
  | preview (error : PreviewError)
  | rejected (why : Schema.Rejection)
deriving DecidableEq, Repr

namespace Workspace

/-- The file of a name and a content, if there can be one. -/
def newFile (name content : String) : Except WorkspaceError SourceFile :=
  (SourceFile.decode (.ofTexts [("name", name), ("content", content)])).mapError .rejected

/-- The file under a key. -/
def file (w : Workspace) (key : String) : Except WorkspaceError SourceFile :=
  match w.files.get? key with
  | some file => .ok file
  | none => .error (.noFile key)

/-- Starts over with the starter of a framework. -/
def start (w : Workspace) (framework : String) : Except WorkspaceError Workspace := do
  let files ← (Starter.named framework).mapError .preview
  return { w with framework, files }

/-- Changes the framework and keeps the files. -/
def withFramework (w : Workspace) (framework : String) : Workspace := { w with framework }

/-- Puts a file under its name. -/
def put (w : Workspace) (name content : String) : Except WorkspaceError Workspace := do
  return { w with files := w.files.put name (← newFile name content) }

/-- Puts an empty file under its name. -/
def add (w : Workspace) (name : String) : Except WorkspaceError Workspace := w.put name ""

/-- Gives a file other content. -/
def edit (w : Workspace) (key content : String) : Except WorkspaceError Workspace := do
  return { w with files := w.files.put key ((← w.file key).withContent content) }

/-- Replaces the first occurrence of a text in a file. -/
def replace (w : Workspace) (key old new : String) : Except WorkspaceError Workspace := do
  let file ← w.file key
  return { w with
    files := w.files.put key (file.withContent (Text.replaceFirst old new file.content)) }

/-- Takes a file away, if it is there. -/
def remove (w : Workspace) (key : String) : Workspace := { w with files := w.files.erase key }

/-- All that would keep the project from being previewed. -/
def problems (w : Workspace) : List String := Validation.problems w.framework w.files

/-- The files that a build would use. -/
def selection (w : Workspace) : Except PreviewError Selection := do
  (Selection.resolve (← Framework.parse w.framework) w.files).mapError ResolveError.toPreviewError

/-- Whether a file needs a full compile. -/
def needsFullCompile (w : Workspace) (key : String) : Except WorkspaceError Bool := do
  let file ← w.file key
  let framework ← (Framework.parse w.framework).mapError .preview
  return Complexity.needsFullCompile file.content framework

end Workspace

end WebPreview
