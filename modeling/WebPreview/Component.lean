import WebPreview.Json.Printer
import WebPreview.Text.Classes
import WebPreview.Text.Find
import WebPreview.Text.Word

/-! # Single-file components

A single-file component holds a template, a script and a style, each in a block of its own. The
blocks are found by their tags alone: the template reaches from the first opening tag to the last
closing tag, so that templates may stand in it, and the other two take their first block. A block
that is not there is the empty text.

Without a compiler the component becomes a script for the global runtime: its default export is
made a constant, the template is attached to it as a string, and it is mounted.
-/

namespace WebPreview

/-- The blocks of a component. -/
structure Component where
  template : String
  script : String
  style : String
deriving DecidableEq, Repr, Inhabited

namespace Component

open Text

/-- What follows an opening tag of the name, if one stands at the front: the name alone, or a
blank and attributes after it. -/
def afterTag? (name : List Char) (cs : List Char) : Option (List Char) :=
  match after? ('<' :: name) cs with
  | some ('>' :: body) => some body
  | some (c :: attributes) =>
    if isBlank c then (splitFirst? ['>'] attributes).map Prod.snd else none
  | _ => none

/-- What follows the first opening tag of the name. -/
def afterFirstTag? (name : List Char) : List Char → Option (List Char)
  | [] => none
  | c :: cs => (afterTag? name (c :: cs)).or (afterFirstTag? name cs)

/-- The closing tag of the name. -/
def closingTag (name : List Char) : List Char := '<' :: '/' :: name ++ ['>']

/-- The first block of the name, up to the next closing tag. -/
def firstBlock? (name source : List Char) : Option (List Char) := do
  let body ← afterFirstTag? name source
  let (block, _) ← splitFirst? (closingTag name) body
  return block

/-- The block from the first opening tag of the name to the last closing tag. -/
def widestBlock? (name source : List Char) : Option (List Char) := do
  let body ← afterFirstTag? name source
  let (block, _) ← splitLast? (closingTag name) body
  return block

/-- A block without the blanks around it, empty if there is none. -/
def blockText (block? : Option (List Char)) : String := String.ofList (trimChars (block?.getD []))

/-- The blocks of a component's source. -/
def ofSource (source : String) : Component where
  template := blockText (widestBlock? "template".toList source.toList)
  script := blockText (firstBlock? "script".toList source.toList)
  style := blockText (firstBlock? "style".toList source.toList)

/-- The constant that holds the component. -/
def constantName : String := "__sfc__"

/-- Where a component is mounted unless told otherwise. -/
def mountSelector : String := "#app"

/-- What follows a default export, if one stands at the front. -/
def afterExport? (cs : List Char) : Option (List Char) := do
  let rest ← after? "export".toList cs
  let gap := rest.takeWhile isBlank
  let rest ← after? "default".toList (rest.dropWhile isBlank)
  let gap' := rest.takeWhile isBlank
  if gap.isEmpty || gap'.isEmpty then none else some (rest.dropWhile isBlank)

/-- Splits a script around its first default export. `inWord` tells whether a word is under way
at the front. -/
def splitExport? (inWord : Bool) : List Char → Option (List Char × List Char)
  | [] => none
  | c :: cs =>
    match if inWord then none else afterExport? (c :: cs) with
    | some rest => some ([], rest)
    | none => (splitExport? (isWord c) cs).map fun (pre, post) => (c :: pre, post)

/-- The start of the declaration that takes the place of the default export. -/
def declaration : String := "const " ++ constantName ++ " = "

/-- The script with its default export made a constant. A script without one gets an empty
component after it. -/
def declare (script : String) : String :=
  match splitExport? false script.toList with
  | some (pre, post) => String.ofList pre ++ declaration ++ String.ofList post
  | none =>
    String.ofList (trimStart (script ++ "\nconst " ++ constantName ++ " = \x7b\x7d;").toList)

/-- The literal with every closing tag broken up: `</` becomes `<\/`, which reads the same. -/
def breakClosings : List Char → List Char
  | '<' :: '/' :: cs => '<' :: '\\' :: '/' :: breakClosings cs
  | c :: cs => c :: breakClosings cs
  | [] => []

/-- A text as a string literal that can stand in a script element. -/
def literal (s : String) : String := String.ofList (breakClosings (Json.quote s).toList)

/-- The script that runs the component without a compiler. -/
def toScript (c : Component) (mount : String := mountSelector) : String :=
  String.intercalate "\n"
    [ declare c.script,
      constantName ++ ".template = " ++ literal c.template ++ ";",
      "Vue.createApp(" ++ constantName ++ ").mount(" ++ literal mount ++ ");" ]

end Component

end WebPreview
