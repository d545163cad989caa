import WebPreview.Text.CaseTable

/-! # Lower and upper case of a text

Case mapping takes a character to one or several characters. Lower case looks at the neighbours
in one place: a capital sigma at the end of a word becomes the final form of the letter.
-/

namespace WebPreview.Text

/-- The case-mapped character, itself if no run maps it. -/
def mapChar (runs : List CaseRun) (c : Char) : Char :=
  ((mapRuns? runs c.toNat).map Char.ofNat).getD c

/-- Whether the first character that is not passed over has case. -/
def reachesCased (cs : List Char) : Bool :=
  match cs.dropWhile (inSpans caseIgnorableSpans) with
  | [] => false
  | c :: _ => inSpans casedSpans c

/-- The lower case of one character, given what stands before it, nearest first, and after it. -/
def lowerChar (before : List Char) (c : Char) (after : List Char) : List Char :=
  if c.toNat < 128 then [c.toLower]
  else if c.toNat = 0x3A3 then
    [if reachesCased before && !reachesCased after then 'ς' else 'σ']
  else if c.toNat = 0x130 then ['i', Char.ofNat 0x307]
  else [mapChar lowerRuns c]

/-- The lower case of the characters after `before`, which is given nearest first. -/
def lowerFrom (before : List Char) : List Char → List Char
  | [] => []
  | c :: cs => lowerChar before c cs ++ lowerFrom (c :: before) cs

/-- The lower case of a text. -/
def lowerChars (cs : List Char) : List Char := lowerFrom [] cs

/-- The lower case of a text. -/
def lower (s : String) : String := String.ofList (lowerChars s.toList)

/-- The upper case of one character. -/
def upperChar (c : Char) : List Char :=
  if c.toNat < 128 then [c.toUpper]
  else match upperExpansions.lookup c.toNat with
    | some codes => codes.map Char.ofNat
    | none => [mapChar upperRuns c]

/-- The upper case of a text. -/
def upper (s : String) : String := String.ofList (s.toList.flatMap upperChar)

end WebPreview.Text
