import WebPreview.Text.Find

/-! # Markers

The literal texts of a page that stand for a style sheet and for a script. A placeholder comes
first; after it come the tags that would load the file.
-/

namespace WebPreview

/-- The texts that stand for the style and for the script, those to be tried first in front. -/
structure Markers where
  style : List String := []
  script : List String := []
deriving DecidableEq, Repr, Inhabited

namespace Markers

/-- The placeholder for a style sheet. -/
def stylePlaceholder : String := "\x7b\x7bSTYLE\x7d\x7d"

/-- The placeholder for a script. -/
def scriptPlaceholder : String := "\x7b\x7bSCRIPT\x7d\x7d"

/-- The tag that loads a style sheet. -/
def styleTag (name : String) : String := "<link rel=\"stylesheet\" href=\"" ++ name ++ "\">"

/-- The tags that load a script, in the order in which they are tried. -/
def scriptTags (name : String) : List String :=
  ["<script src=\"" ++ name ++ "\"></script>",
   "<script type=\"text/babel\" src=\"" ++ name ++ "\"></script>",
   "<script type=\"module\" src=\"" ++ name ++ "\"></script>"]

/-- The markers for the style sheet and the scripts of the given names. -/
def ofNames (style : Option String) (scripts : List String) : Markers :=
  { style := stylePlaceholder :: (style.map styleTag).toList
    script := scriptPlaceholder :: scripts.flatMap scriptTags }

/-- The first marker, in their order, that is not empty and occurs in the page. -/
def find? (page : String) (markers : List String) : Option String :=
  markers.find? fun m => m != "" && Text.occurs m page

end Markers

end WebPreview
