import WebPreview.Keyed
import WebPreview.Text.Casing
import WebPreview.Text.Find

/-! # Source files

A source file is a name, a kind and a content. A source set holds files under their keys, in the
order in which the keys came; a file's name is its key unless it was given one of its own.

A name is a path with `/` between its parts. Empty parts and parts that are a single point say
nothing. The suffix of a name is that of its last part: it starts at the last point, which is
neither the first nor the last character.
-/

namespace WebPreview

namespace FileName

open Text

/-- The parts of a path that say something, in order. -/
def parts (name : String) : List String :=
  ((splitOnChar '/' name.toList).map String.ofList).filter fun p => p != "" && p != "."

/-- Whether the path starts at the root. -/
def isAbsolute (name : String) : Bool := name.toList.head? == some '/'

/-- The last part of a path, empty if there is none. -/
def lastPart (name : String) : String := (parts name).getLast?.getD ""

/-- What stands from the last point on, if that is a suffix. -/
def suffixOf (part : List Char) : List Char :=
  match splitLast? ['.'] part with
  | some (stem, extension) =>
    if stem.isEmpty || extension.isEmpty then [] else '.' :: extension
  | none => []

/-- The suffix of a name in lower case, empty if it has none. -/
def suffix (name : String) : String :=
  String.ofList (lowerChars (suffixOf (lastPart name).toList))

end FileName

/-- What a source file is for. -/
inductive FileKind where
  | markup
  | style
  | script
  | jsx
  | vue
  | svelte
deriving DecidableEq, Repr, Inhabited

namespace FileKind

/-- Every kind, in the order in which messages list them. -/
def all : List FileKind := [markup, style, script, jsx, vue, svelte]

/-- The identifier of a kind. -/
def id : FileKind → String
  | markup => "markup"
  | style => "style"
  | script => "script"
  | jsx => "jsx"
  | vue => "vue"
  | svelte => "svelte"

/-- The kind with exactly this identifier. -/
def ofId? (id : String) : Option FileKind := all.find? (·.id == id)

/-- The identifier of a kind finds the kind again. -/
theorem ofId?_id (k : FileKind) : ofId? k.id = some k := by cases k <;> decide

/-- The suffixes that tell a kind. -/
def bySuffix : List (String × FileKind) :=
  [(".html", markup), (".htm", markup), (".css", style), (".jsx", jsx), (".tsx", jsx),
   (".vue", vue), (".svelte", svelte)]

/-- The kind that a file name tells by its suffix; a script if it tells none. -/
def ofName (name : String) : FileKind := (bySuffix.lookup (FileName.suffix name)).getD script

end FileKind

/-- A source file. -/
structure SourceFile where
  name : String
  kind : FileKind
  content : String
deriving DecidableEq, Repr, Inhabited

namespace SourceFile

/-- The file of a name, with the kind that its name tells. -/
def ofName (name : String) (content : String := "") : SourceFile :=
  ⟨name, FileKind.ofName name, content⟩

/-- The same file with other content. -/
def withContent (file : SourceFile) (content : String) : SourceFile := { file with content }

/-- The language of a file name for highlighting, by its suffix. -/
def languageBySuffix : List (String × String) :=
  [(".html", "html"), (".htm", "html"), (".css", "css"), (".js", "javascript"),
   (".mjs", "javascript"), (".jsx", "jsx"), (".ts", "typescript"), (".tsx", "tsx"),
   (".json", "json"), (".md", "markdown"), (".vue", "html"), (".svelte", "html")]

/-- The language a file is highlighted in; plain text if its name tells none. -/
def language (name : String) : String :=
  (languageBySuffix.lookup (FileName.suffix name)).getD "text"

end SourceFile

/-- Source files under their keys, in order. -/
abbrev SourceSet := Keyed SourceFile

/-- The set of files of the given names and contents. -/
def SourceSet.ofContents (files : List (String × String)) : SourceSet :=
  Keyed.ofList (files.map fun (name, content) => (name, SourceFile.ofName name content))

end WebPreview
