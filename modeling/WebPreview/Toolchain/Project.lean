import WebPreview.Event
import WebPreview.FileSystem
import WebPreview.SourceFile

/-! # The project directory

The source set as files on disk, for the toolchain to work on. Every file goes to the path that
its key names below the directory. A key is refused if, with either kind of slash taken for a
separator, it is a path from the root, leads up, or leads into the toolchain's own directory.
-/

namespace WebPreview.Project

/-- The directory below the project that belongs to the toolchain. -/
def toolchainDir : String := ".previewkit"

/-- The name of the build script. -/
def scriptName : String := "build.mjs"

/-- Whether a file may be written under this key. -/
def isSafeName (name : String) : Bool :=
  let path := Text.replaceChar '\\' '/' name
  let parts := FileName.parts path
  !parts.isEmpty && !FileName.isAbsolute path && !parts.contains ".."
    && parts.head? != some toolchainDir

/-- The refusal of a key. -/
def unsafeName (name : String) : PreviewError :=
  ⟨.remoteUnavailable, "Refusing to write unsafe file name: " ++ name, name⟩

/-- A written path, followed from a directory. -/
def join (directory name : String) : String :=
  if FileName.isAbsolute name then name
  else if Text.endsWith directory "/" then directory ++ name
  else directory ++ "/" ++ name

/-- A step of writing a project. What it wrote before a failure stays written. -/
abbrev Writing (α : Type) := ExceptT Raised (StateM FileSystem) α

/-- An operation on files, as a step of writing. -/
def ofFileOp {α : Type} (op : FileOp α) : Writing α :=
  ExceptT.mk do return (← op.run).mapError FileFault.toRaised

/-- Writes one file of a project. There is room for so many calls that each make a directory for
the one before. -/
def writeEntry (room : Nat) (directory key content : String) : Writing Unit := do
  if !isSafeName key then throw (.preview (unsafeName key))
  let steps := FileSystem.steps (join directory key)
  ofFileOp (.ensureDirectories room (FileSystem.parent steps))
  ofFileOp (.writeFile steps content)

/-- Writes the build script. -/
def writeScript (room : Nat) (directory script : String) : Writing Unit := do
  let own := FileSystem.steps (join directory toolchainDir)
  ofFileOp (.ensureDirectories room own)
  ofFileOp (.writeFile (own ++ [scriptName]) script)

/-- Writes the files in their order, and the build script after them. -/
def write (room : Nat) (directory script : String) (files : SourceSet) : Writing Unit := do
  files.entries.forM fun (key, file) => writeEntry room directory key file.content
  writeScript room directory script

/-- Writes a project into a directory that is all there is. -/
def writeFresh (room : Nat) (directory script : String) (files : SourceSet) :
    Except Raised Unit × FileSystem :=
  (write room directory script files).run.run (.withDirectory directory)

/-- Removes a project directory with everything in it. -/
def remove (room : Nat) (directory : String) (fs : FileSystem) : Except Raised Unit :=
  ((ofFileOp (.removeTree room (FileSystem.steps directory))).run.run fs).1

/-- The files of a project directory by their paths in it, sorted. -/
def contents (directory : String) (fs : FileSystem) : List (String × String) :=
  fs.filesBelow (FileSystem.steps directory)

end WebPreview.Project
