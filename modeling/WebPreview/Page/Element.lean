import WebPreview.Archive
import WebPreview.Event

/-! # What the page shows

The elements that a run puts on the page, in order, and the blocks that they are put into.
-/

namespace WebPreview.Page

/-- A part of the page that holds elements. -/
inductive Block where
  | sidebar
  | column (index : Nat)
  | tab (index : Nat)
  /-- What is shown while something is being done. -/
  | spinner
deriving DecidableEq, Repr

/-- How a row is divided. -/
inductive Columns where
  | equal (count : Nat)
  | weighted (weights : List Nat)
deriving DecidableEq, Repr

/-- The buttons of the page. -/
inductive Button where
  | loadStarter
  | clearConsole
  | add
  | remove (file : String)
  | compile
deriving DecidableEq, Repr

namespace Button

/-- What stands on a button. -/
def label : Button → String
  | loadStarter => "📦 Load starter"
  | clearConsole => "🗑️ Clear Console"
  | add => "➕ Add"
  | remove file => "🗑️ Remove " ++ file
  | compile => "▶️ Compile"

/-- Whether a button is the one that matters most. -/
def isPrimary : Button → Bool
  | compile => true
  | _ => false

end Button

/-- An element of the page. -/
inductive Element where
  /-- The title, the icon and the layout of the window. -/
  | window (title icon layout : String)
  /-- Text that is markup already. -/
  | markup (html : String)
  | header (text : String)
  | subheader (text : String)
  | caption (text : String)
  | text (text : String)
  | divider
  | info (text : String)
  | warning (text : String)
  | error (text : String)
  /-- A choice among options, which may be shown by other texts, with or without its label. -/
  | choice (label : String) (options : List String) (shown : Option (List String)) (index : Nat)
  /-- A large text under edit. Its key tells one text from the next. -/
  | editor (label content key : String)
  /-- A line of text under edit; one with an example in it shows no label. -/
  | field (label value : String) (sample : Option String)
  | switch (label : String) (on : Bool)
  | button (button : Button)
  | columns (columns : Columns)
  | tabs (labels : List String)
  | spinner (text : String)
  /-- A document of its own inside the page. -/
  | preview (html : String)
  | archive (label : String) (entries : List ArchiveEntry) (fileName : String)
  | document (label html fileName : String) (disabled : Bool)

namespace Element

/-- How high the editor is. -/
def editorHeight : Nat := 420

/-- How high the preview is. -/
def previewHeight : Nat := 600

end Element

/-- What can be seen of a run of the page. -/
inductive PageEvent where
  | shown (element : Element)
  | entered (block : Block)
  | left (block : Block)
  /-- The run is broken off so that the page is run again. -/
  | restarted
  /-- Something that a build did, or a record that the page itself wrote. -/
  | work (event : Event)

end WebPreview.Page
