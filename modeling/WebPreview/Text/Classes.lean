/-! # Classes of characters

A class of characters is a list of spans of code points in increasing order, each with both of its
ends inside.

Blanks stand between words in any script. Trimming takes blanks off both ends of a text and leaves
those inside alone: what is left starts and ends with a character that is not blank. Each script's
ten digits stand in a row, zero first, and a digit of any script counts as the ASCII digit of the
same value. A line ends at a line feed, a carriage return, the two together, a vertical tab, a form
feed, one of the three information separators, a next-line control, or a line or paragraph
separator. The end of the text ends the last line without adding an empty one.
-/

namespace WebPreview.Text

/-- The code points from `first` to `last`, both included. -/
abbrev Span := Nat × Nat

namespace Span

/-- The lowest code point of the span. -/
def first (s : Span) : Nat := s.1

/-- The highest code point of the span. -/
def last (s : Span) : Nat := s.2

/-- Whether the code point lies in the span. -/
def contains (s : Span) (n : Nat) : Bool := decide (s.first ≤ n) && decide (n ≤ s.last)

private theorem contains_iff {s : Span} {n : Nat} :
    s.contains n = true ↔ s.first ≤ n ∧ n ≤ s.last := by
  simp [contains]

end Span

/-- Whether one of the spans holds the character. -/
def inSpans (spans : List Span) (c : Char) : Bool := spans.any fun s => s.contains c.toNat

/-- A character is in the spans exactly if it is in one of them. -/
theorem inSpans_iff {spans : List Span} {c : Char} :
    inSpans spans c = true ↔ ∃ s ∈ spans, s.first ≤ c.toNat ∧ c.toNat ≤ s.last := by
  simp [inSpans, Span.contains_iff]

/-- Blanks, line ends and separators, in increasing order. -/
def blankSpans : List Span :=
  [(0x9, 0xD), (0x1C, 0x20), (0x85, 0x85), (0xA0, 0xA0), (0x1680, 0x1680), (0x2000, 0x200A),
   (0x2028, 0x2029), (0x202F, 0x202F), (0x205F, 0x205F), (0x3000, 0x3000)]

/-- Whether the character is a blank. -/
def isBlank (c : Char) : Bool := inSpans blankSpans c

/-- Takes the characters of a class off both ends. -/
def stripWhile (p : Char → Bool) (cs : List Char) : List Char :=
  ((cs.dropWhile p).reverse.dropWhile p).reverse

/-- Takes the blanks off both ends. -/
def trimChars (cs : List Char) : List Char := stripWhile isBlank cs

/-- Takes the blanks off both ends of a text. -/
def trim (s : String) : String := String.ofList (trimChars s.toList)

/-- Whether a text holds nothing but blanks. -/
def isBlankText (s : String) : Bool := s.toList.all isBlank

/-- Takes the blanks off the front. -/
def trimStart (cs : List Char) : List Char := cs.dropWhile isBlank

/-- Where the digits of each script are: every span is a whole number of rows of ten. -/
def digitSpans : List Span :=
  [(0x30, 0x39), (0x660, 0x669), (0x6F0, 0x6F9), (0x7C0, 0x7C9), (0x966, 0x96F), (0x9E6, 0x9EF),
   (0xA66, 0xA6F), (0xAE6, 0xAEF), (0xB66, 0xB6F), (0xBE6, 0xBEF), (0xC66, 0xC6F),
   (0xCE6, 0xCEF), (0xD66, 0xD6F), (0xDE6, 0xDEF), (0xE50, 0xE59), (0xED0, 0xED9),
   (0xF20, 0xF29), (0x1040, 0x1049), (0x1090, 0x1099), (0x17E0, 0x17E9), (0x1810, 0x1819),
   (0x1946, 0x194F), (0x19D0, 0x19D9), (0x1A80, 0x1A89), (0x1A90, 0x1A99), (0x1B50, 0x1B59),
   (0x1BB0, 0x1BB9), (0x1C40, 0x1C49), (0x1C50, 0x1C59), (0xA620, 0xA629), (0xA8D0, 0xA8D9),
   (0xA900, 0xA909), (0xA9D0, 0xA9D9), (0xA9F0, 0xA9F9), (0xAA50, 0xAA59), (0xABF0, 0xABF9),
   (0xFF10, 0xFF19), (0x104A0, 0x104A9), (0x10D30, 0x10D39), (0x11066, 0x1106F),
   (0x110F0, 0x110F9), (0x11136, 0x1113F), (0x111D0, 0x111D9), (0x112F0, 0x112F9),
   (0x11450, 0x11459), (0x114D0, 0x114D9), (0x11650, 0x11659), (0x116C0, 0x116C9),
   (0x11730, 0x11739), (0x118E0, 0x118E9), (0x11950, 0x11959), (0x11C50, 0x11C59),
   (0x11D50, 0x11D59), (0x11DA0, 0x11DA9), (0x16A60, 0x16A69), (0x16AC0, 0x16AC9),
   (0x16B50, 0x16B59), (0x1D7CE, 0x1D7FF), (0x1E140, 0x1E149), (0x1E2F0, 0x1E2F9),
   (0x1E950, 0x1E959), (0x1FBF0, 0x1FBF9)]

/-- The value of a decimal digit of any script. -/
def digitValue? (c : Char) : Option Nat :=
  (digitSpans.find? fun s => s.contains c.toNat).map fun s => (c.toNat - s.first) % 10

/-- The characters that end a line. -/
def isLineEnd (c : Char) : Bool :=
  let n := c.toNat
  (0x0A ≤ n && n ≤ 0x0D) || (0x1C ≤ n && n ≤ 0x1E) || n == 0x85 || n == 0x2028 || n == 0x2029

/-- The lines of a text whose current line holds `line`, latest character first. -/
def linesFrom (line : List Char) : List Char → List (List Char)
  | [] => if line.isEmpty then [] else [line.reverse]
  | '\r' :: '\n' :: cs => line.reverse :: linesFrom [] cs
  | c :: cs => if isLineEnd c then line.reverse :: linesFrom [] cs else linesFrom (c :: line) cs

/-- The lines of a text, without their ends. -/
def lines (s : String) : List String := (linesFrom [] s.toList).map String.ofList

/-- The text of some lines, each ended by a line feed. -/
def joinLines (ls : List String) : String := String.join (ls.map (· ++ "\n"))

end WebPreview.Text
