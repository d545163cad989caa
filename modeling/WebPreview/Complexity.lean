import WebPreview.Framework
import WebPreview.Text.Find
import WebPreview.Text.Word

/-! # Which sources need the full compiler

A coarse look at the text of an entry, not a parse. A source that needs the compiler without need
costs only time; one that is passed by mistake is caught later.

For React that is a source of many lines, an import at the start of a line, an interface, a type
alias or a type on what a function returns. For Vue it is a template or a scoped style, and for
Svelte a script together with a style.
-/

namespace WebPreview.Complexity

open Text

/-- A source of more lines than this needs the full compiler. -/
def maxSimpleLines : Nat := 100

/-- The number of lines, counting the one after the last line feed. -/
def lineCount (cs : List Char) : Nat := cs.count '\n' + 1

/-- Whether the character can start a name. -/
def isNameStart (c : Char) : Bool := c.isAlpha || c == '_' || c == '$'

/-- Whether the character can stand in a name. -/
def isNamePart (c : Char) : Bool := isWord c || c == '$'

/-- What is left after at least one blank. -/
def afterBlanks? (cs : List Char) : Option (List Char) :=
  match cs with
  | c :: r => if isBlank c then some (trimStart r) else none
  | [] => none

/-- What is left after the first character, if it passes the test. -/
def afterOne? (p : Char → Bool) : List Char → Option (List Char)
  | c :: r => if p c then some r else none
  | [] => none

/-- Whether an import stands at the front, after blanks. -/
def importAhead (cs : List Char) : Bool :=
  match after? "import".toList (trimStart cs) with
  | some (c :: _) => isBlank c || "\x7b*'\"".toList.contains c
  | _ => false

/-- Whether some line starts with an import. -/
def hasImport (cs : List Char) : Bool :=
  importAhead cs || anyTail (fun tail =>
    match tail with
    | '\n' :: r => importAhead r
    | _ => false) cs

/-- Whether the test passes at some place of the text where no word is under way. `inWord` tells
whether one is under way at the front. -/
def anyWordStart (p : List Char → Bool) (inWord : Bool) : List Char → Bool
  | [] => !inWord && p []
  | c :: cs => (!inWord && p (c :: cs)) || anyWordStart p (isWord c) cs

/-- Whether an interface of some name stands at the front. -/
def interfaceAhead (cs : List Char) : Bool :=
  (do afterOne? isNameStart (← afterBlanks? (← after? "interface".toList cs))).isSome

/-- Whether blanks and an equals sign stand at the front. -/
def equalsAhead (cs : List Char) : Bool := (trimStart cs).head? == some '='

/-- Whether a type alias of some name stands at the front, with parameters or without. -/
def aliasAhead (cs : List Char) : Bool :=
  match (do afterOne? isNameStart (← afterBlanks? (← after? "type".toList cs))) with
  | none => false
  | some rest =>
    let rest := trimStart (rest.dropWhile isNamePart)
    match rest with
    | '<' :: parameters =>
      match splitFirst? ['>'] parameters with
      | some (_, rest) => equalsAhead rest
      | none => false
    | _ => equalsAhead rest

/-- Whether the character can stand in the type that a function returns. -/
def isTypePart (c : Char) : Bool := isWord c || "$.<>[]|".toList.contains c

/-- Whether the end of a parameter list, a type and the start of a body stand at the front. -/
def returnTypeAhead (cs : List Char) : Bool :=
  let rest? := do
    let rest ← after? [')'] cs
    let rest ← after? [':'] (trimStart rest)
    afterOne? isNameStart (trimStart rest)
  match rest? with
  | none => false
  | some rest =>
    match trimStart (rest.dropWhile isTypePart) with
    | '=' :: '>' :: _ => true
    | c :: _ => c == '\x7b'
    | [] => false

/-- Whether a tag of this opening stands in the text, followed by a blank or its end. -/
def hasTag (opening : String) (cs : List Char) : Bool :=
  anyTail (fun tail =>
    match after? opening.toList tail with
    | some (c :: _) => isBlank c || c == '>'
    | _ => false) cs

/-- Whether the word `scoped` stands at the front with nothing of a word after it. -/
def scopedAhead (cs : List Char) : Bool := (after? "scoped".toList cs).any endsWord

/-- Whether a style tag whose attributes include the word `scoped` stands in the text. -/
def hasScopedStyle (cs : List Char) : Bool :=
  anyTail (fun tail =>
    match after? "<style".toList tail with
    | some rest =>
      match splitFirst? ['>'] rest with
      | some (attributes, _) => endsWord rest && anyWordStart scopedAhead true attributes
      | none => false
    | none => false) cs

/-- Whether the source of an entry needs the full compiler. -/
def needsFullCompile (source : String) : Framework → Bool
  | .vanilla => false
  | .react =>
    let cs := source.toList
    decide (lineCount cs > maxSimpleLines) || hasImport cs || anyWordStart interfaceAhead false cs
      || anyWordStart aliasAhead false cs || anyTail returnTypeAhead cs
  | .vue => hasTag "<template" source.toList || hasScopedStyle source.toList
  | .svelte => hasTag "<script" source.toList && hasTag "<style" source.toList

end WebPreview.Complexity
