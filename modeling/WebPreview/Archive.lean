import WebPreview.SourceFile

/-! # The archive of a project

A project leaves as an archive with one entry per file, in order. An entry's name is a path below
the archive's root: it has one kind of slash, none in front, and ends before a null character.
Nothing can be stored without a name.
-/

namespace WebPreview

/-- An entry of an archive. -/
structure ArchiveEntry where
  name : String
  content : String
deriving DecidableEq, Repr

namespace ArchiveEntry

/-- How entries are stored: deflated. -/
def method : Nat := 8

/-- Whether the entry is a directory. -/
def isDirectory (e : ArchiveEntry) : Bool := Text.endsWith e.name "/"

end ArchiveEntry

/-- Why there is no archive. -/
inductive ArchiveError where
  /-- An entry would have no name. -/
  | emptyName
  /-- An entry's name is longer than an archive can say. -/
  | longName
deriving DecidableEq, Repr

namespace Archive

/-- The longest name of an entry, in bytes. -/
def maxNameBytes : Nat := 65535

/-- The name that the file under a key is stored by. -/
def entryName (key : String) : String :=
  let path := (Text.replaceChar '\\' '/' key).toList.dropWhile (· == '/')
  String.ofList (path.takeWhile (· != '\x00'))

/-- The entry of a file. -/
def entry (key : String) (file : SourceFile) : Except ArchiveError ArchiveEntry :=
  let name := entryName key
  if name = "" then .error .emptyName
  else if maxNameBytes < name.utf8ByteSize then .error .longName
  else .ok ⟨name, file.content⟩

/-- The entries of a source set, in order. -/
def entries (files : SourceSet) : Except ArchiveError (List ArchiveEntry) :=
  files.entries.mapM fun (key, file) => entry key file

end Archive

end WebPreview
