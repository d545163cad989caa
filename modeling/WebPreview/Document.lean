import WebPreview.Markers

/-! # Documents

A finished document is the page with the style and the script written where their markers stand.
Only the first occurrence of the first marker that occurs is replaced, and a page without a
marker is left as it is.
-/

namespace WebPreview.Document

/-- A style sheet as an element. -/
def styleBlock (style : String) : String := "<style>" ++ style ++ "</style>"

/-- A script as an element. No type, or an empty one, is not written. -/
def scriptBlock (code : String) (type? : Option String := none) : String :=
  match type? with
  | some type =>
    if type = "" then "<script>" ++ code ++ "</script>"
    else "<script type=\"" ++ type ++ "\">" ++ code ++ "</script>"
  | none => "<script>" ++ code ++ "</script>"

/-- The type that the replaced tag gives to its script. -/
def moduleType? (marker : String) : Option String :=
  if Text.occurs "type=\"module\"" marker then some "module" else none

/-- The type of a script that replaces a tag. One that is given wins over that of the tag. -/
def scriptType? (marker : String) (type? : Option String) : Option String :=
  if type?.all (· == "") then moduleType? marker else type?

/-- Replaces the first marker that occurs by the block. -/
def inject (page : String) (markers : List String) (block : String) : String :=
  match Markers.find? page markers with
  | some marker => Text.replaceFirst marker block page
  | none => page

/-- Writes a style sheet into the page. -/
def withStyle (page : String) (markers : Markers) (style : String) : String :=
  inject page markers.style (styleBlock style)

/-- Writes a script into the page. -/
def withScript (page : String) (markers : Markers) (type? : Option String) (code : String) :
    String :=
  match Markers.find? page markers.script with
  | some marker => Text.replaceFirst marker (scriptBlock code (scriptType? marker type?)) page
  | none => page

/-- The page with its style written first and its script after it. -/
def assemble (page : String) (script style : Option String) (markers : Markers)
    (type? : Option String := none) : String :=
  let page := match style with
    | some style => withStyle page markers style
    | none => page
  match script with
  | some code => withScript page markers type? code
  | none => page

end WebPreview.Document
