import WebPreview.FileTree
import WebPreview.PreviewError
import WebPreview.Text.Find
import WebPreview.Text.Quoted

/-! # A tree of files

Directories and files under paths from the root. A written path is followed step by step: an
empty step and a single point stay, two points go up, and everything else goes down through a
directory that has to be there. An operation that fails leaves behind what it did before.

Some operations call themselves, once for each directory on the way, and calls can only be made
inside one another as long as there is room for them. How many calls there is room for is given
to the operation.
-/

namespace WebPreview

/-- Directories and files below the root, which is always there. -/
structure FileSystem where
  entries : List (String × FileTree)

/-- Why an operation on files fails. -/
inductive FileFault.Cause where
  | notFound
  | fileExists
  | notADirectory
  | isADirectory
  | nameTooLong
  /-- The path holds a null character. -/
  | nullCharacter
  /-- More calls would have to be made inside one another than there is room for. -/
  | callsTooDeep
deriving DecidableEq, Repr

/-- Why an operation on files fails, and the path as it was written. -/
structure FileFault where
  cause : FileFault.Cause
  path : String
deriving DecidableEq, Repr

namespace FileFault

/-- The system's number of a cause, if it is one of the system's, and its name and text. -/
def Cause.details : Cause → Option Nat × String × String
  | notFound => (some 2, "FileNotFoundError", "No such file or directory")
  | fileExists => (some 17, "FileExistsError", "File exists")
  | notADirectory => (some 20, "NotADirectoryError", "Not a directory")
  | isADirectory => (some 21, "IsADirectoryError", "Is a directory")
  | nameTooLong => (some 36, "OSError", "File name too long")
  | nullCharacter => (none, "ValueError", "embedded null byte")
  | callsTooDeep => (none, "RecursionError", "maximum recursion depth exceeded")

/-- The fault as one that a build is stopped by. -/
def toRaised (f : FileFault) : Raised :=
  match f.cause.details with
  | (none, name, text) => .other name text
  | (some number, name, text) =>
    .other name ("[Errno " ++ toString number ++ "] " ++ text ++ ": " ++ Text.quoted f.path)

end FileFault

/-- An operation on files. What it did before a failure stays done. -/
abbrev FileOp (α : Type) := ExceptT FileFault (StateM FileSystem) α

namespace FileSystem

/-- The whole tree. -/
def root (fs : FileSystem) : FileTree := .place (some .directory) fs.entries

/-- What is at a place, if anything. -/
def get? (fs : FileSystem) (p : Path) : Option FileNode := (fs.root.reach p).content?

/-- Puts something at a place, instead of what was there. The root stays what it is. -/
def put (fs : FileSystem) (p : Path) (node : FileNode) : FileSystem :=
  ⟨(FileTree.graft (.place (some node) (fs.root.reach p).children) p fs.root).children⟩

/-- Takes away a place and everything below it. -/
def erase (fs : FileSystem) (p : Path) : FileSystem := ⟨(FileTree.graft .empty p fs.root).children⟩

/-- The steps of a written path, from the root on. -/
def steps (path : String) : List String :=
  match Text.splitOnChar '/' path.toList with
  | [] :: rest => rest.map String.ofList
  | pieces => pieces.map String.ofList

/-- The written path of some steps. -/
def written (steps : List String) : String := "/" ++ String.intercalate "/" steps

/-- The steps to the directory that the last step is in. -/
def parent (steps : List String) : List String :=
  (steps.dropLast.reverse.dropWhile (· == "")).reverse

/-- The longest name of a file, in bytes. -/
def maxNameBytes : Nat := 255

/-- The length of a written path in bytes: a slash and a name for every step. -/
def pathBytes : (steps : List String) → Nat
  | [] => 0
  | step :: rest => 1 + step.utf8ByteSize + pathBytes rest

/-- The longest written path, in bytes. -/
def maxPathBytes : Nat := 4095

/-- Follows steps from a place, whose names are given from the last one up, with the tree from
there on. The last step need not lead to anything. -/
def walk (fs : FileSystem) :
    (here : List String) → (found : FileTree) → List String → Except FileFault.Cause Path
  | here, _, [] => .ok here.reverse
  | here, found, step :: rest =>
    match found.content? with
    | none => .error .notFound
    | some (.file _) => .error .notADirectory
    | some .directory =>
      if step = "" || step = "." then walk fs here found rest
      else if step = ".." then walk fs here.tail (fs.root.reach here.tail.reverse) rest
      else if maxNameBytes < step.utf8ByteSize then .error .nameTooLong
      else walk fs (step :: here) (found.child step) rest

/-- The place that steps lead to. -/
def locate (fs : FileSystem) (steps : List String) : Except FileFault.Cause Path :=
  if steps.any (·.toList.contains '\x00') then .error .nullCharacter
  else if maxPathBytes < pathBytes steps then .error .nameTooLong
  else walk fs [] fs.root steps

/-- What steps lead to, if there is anything. -/
def find? (fs : FileSystem) (steps : List String) : Option FileNode :=
  match fs.locate steps with
  | .ok p => fs.get? p
  | .error _ => none

end FileSystem

namespace FileOp

open FileSystem

/-- Fails at a path. -/
def fail {α : Type} (cause : FileFault.Cause) (steps : List String) : FileOp α :=
  throw ⟨cause, written steps⟩

/-- The place that steps lead to. -/
def locate (steps : List String) : FileOp Path := do
  match (← getThe FileSystem).locate steps with
  | .ok p => return p
  | .error cause => fail cause steps

/-- Makes a directory where nothing is yet. -/
def makeDirectory (steps : List String) : FileOp Unit := do
  let p ← locate steps
  match (← getThe FileSystem).get? p with
  | some _ => fail .fileExists steps
  | none => modifyThe FileSystem (·.put p .directory)

/-- Makes a directory unless it is there already. -/
def ensureDirectory (steps : List String) : FileOp Unit := do
  match (← getThe FileSystem).find? steps with
  | some .directory => return
  | _ => makeDirectory steps

/-- Makes a directory and those it is in, each of them by a call inside that for the one below.
Where the one above had to be made, a last step that stays has nothing left to make. -/
def ensureDirectories : (room : Nat) → (steps : List String) → FileOp Unit
  | _, [] => return
  | 0, steps => do
    if ((← getThe FileSystem).find? (parent steps)).isNone then fail .callsTooDeep steps
    ensureDirectory steps
  | room + 1, steps => do
    if ((← getThe FileSystem).find? (parent steps)).isNone then
      ensureDirectories room (parent steps)
      if steps.getLast? = some "." then return
    ensureDirectory steps

/-- Writes a file, instead of the one that was there. -/
def writeFile (steps : List String) (content : String) : FileOp Unit := do
  let p ← locate steps
  match (← getThe FileSystem).get? p with
  | some .directory => fail .isADirectory steps
  | _ => modifyThe FileSystem (·.put p (.file content))

/-- Removes a directory with everything in it, each directory in it by a call inside that for the
one around. Where there is no room for such a call, the directory stays. -/
def removeTree (room : Nat) (p : Path) : FileOp Unit := do
  if room < ((← getThe FileSystem).root.reach p).height then fail .callsTooDeep p
  modifyThe FileSystem (·.erase p)

end FileOp

namespace FileSystem

/-- A tree with nothing in it but a directory. -/
def withDirectory (path : String) : FileSystem := ⟨(FileTree.directories (steps path)).children⟩

/-- The files below a place by the rest of their paths, sorted. -/
def filesBelow (fs : FileSystem) (p : Path) : List (String × String) :=
  let found := (fs.root.reach p).files.map fun (rest, content) =>
    (String.intercalate "/" rest, content)
  found.mergeSort fun a b => !decide (b.1 < a.1)

end FileSystem

end WebPreview
