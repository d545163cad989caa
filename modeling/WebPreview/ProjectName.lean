import WebPreview.Text.Casing
import WebPreview.Text.Classes
import WebPreview.Text.Word

/-! # Names for downloads

A title becomes a name for a file: short, in lower case, with an underscore for every run of
blanks, and without anything but word characters and hyphens. A title of which nothing is left
gets a name of its own.
-/

namespace WebPreview.ProjectName

open Text

/-- How much of a title counts. -/
def maxLength : Nat := 50

/-- The name for a title of which nothing is left. -/
def fallback : String := "preview_project"

/-- Puts an underscore for every run of blanks. -/
def joinBlanks : List Char → List Char
  | [] => []
  | c :: cs =>
    if isBlank c then
      if (cs.head?.map isBlank).getD false then joinBlanks cs else '_' :: joinBlanks cs
    else c :: joinBlanks cs

/-- Whether a character may stand in a name. -/
def isAllowed (c : Char) : Bool := isWord c || c == '-'

/-- What is left of a title. -/
def remains (title : List Char) : List Char :=
  stripWhile (· == '_') ((joinBlanks (trimChars (title.take maxLength))).filter isAllowed)

/-- The name for a title. -/
def ofTitle (title : String) : String :=
  let left := remains title.toList
  lower (if left.isEmpty then fallback else String.ofList left)

end WebPreview.ProjectName
