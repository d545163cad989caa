import WebPreview.Proofs.Json.Remnant
import WebPreview.Proofs.Text.LineEnds
import WebPreview.Proofs.Toolchain.Success

/-! # Results as the build script prints them

The build script prints its result as one line of JSON that escapes no more than it has to. Three
characters that end a line, the next-line control and the two separators, are left as they are.
The result is read back if none of its texts holds one of the three, and otherwise what follows
the last of them is refused (`WebPreview.BuildResult.ofOutput_printed`).
-/

namespace WebPreview

namespace Json

/-- The character ends a line, and stands for itself in a literal. -/
def PartsLine (c : Char) : Prop := c = '\u0085' ∨ c = '\u2028' ∨ c = '\u2029'

instance : DecidablePred PartsLine := fun c =>
  inferInstanceAs (Decidable (c = '\u0085' ∨ c = '\u2028' ∨ c = '\u2029'))

private theorem PartsLine.isLineEnd {c : Char} (parts : PartsLine c) :
    Text.isLineEnd c = true ∧ c ≠ '\r' ∧ lightEscape c = [c] := by
  rcases parts with rfl | rfl | rfl <;> decide

private theorem not_partsLine_of_unbroken {cs : List Char} (unbroken : Text.Unbroken cs) :
    ∀ c ∈ cs, ¬PartsLine c := by
  intro c member parts
  exact Bool.false_ne_true ((unbroken c member).symm.trans parts.isLineEnd.1)

private theorem isLineEnd_eq_false {c : Char} (high : ¬c.toNat < 0x20) (joined : ¬PartsLine c) :
    Text.isLineEnd c = false := by
  have codes : c.toNat ≠ 0x85 ∧ c.toNat ≠ 0x2028 ∧ c.toNat ≠ 0x2029 := by
    refine ⟨fun same => joined (.inl ?_), fun same => joined (.inr (.inl ?_)),
      fun same => joined (.inr (.inr ?_))⟩ <;> exact Char.toNat_inj.1 same
  simp only [Text.isLineEnd, Bool.or_eq_false_iff, Bool.and_eq_false_iff, decide_eq_false_iff_not,
    beq_eq_false_iff_ne]
  omega

private theorem unbroken_lightEscape {c : Char} (joined : ¬PartsLine c) :
    Text.Unbroken (lightEscape c) := by
  rcases (spells_lightEscape c).plain_or_escape with ⟨plain, high, -, -⟩ | ⟨-, escape⟩
  · rw [plain, Text.Unbroken, List.forall_mem_singleton]
    exact isLineEnd_eq_false high joined
  · have unbroken : Text.Unbroken escapeAlphabet := Text.unbroken_of_all rfl
    exact fun d member => unbroken d (escape d member)

private theorem unbroken_inside {text : List Char} (joined : ∀ c ∈ text, ¬PartsLine c) :
    Text.Unbroken (inside text) := by
  intro d member
  obtain ⟨c, from_text, member⟩ := List.mem_flatMap.1 member
  exact unbroken_lightEscape (joined c from_text) d member

private theorem unbroken_literal {s : String} (joined : ∀ c ∈ s.toList, ¬PartsLine c) :
    Text.Unbroken (literal s) := by
  rw [literal, Text.unbroken_cons_iff, Text.unbroken_append_iff]
  exact ⟨rfl, unbroken_inside joined, List.forall_mem_singleton.2 rfl⟩

/-- The last character with the property parts a text that has one. -/
theorem exists_last {α : Type} {property : α → Prop} {as : List α}
    (present : ∃ a ∈ as, property a) :
    ∃ front a tail, as = front ++ a :: tail ∧ property a ∧ ∀ b ∈ tail, ¬property b := by
  induction as with
  | nil => simp at present
  | cons a as ih =>
      by_cases later : ∃ b ∈ as, property b
      · obtain ⟨front, b, tail, rfl, here, none⟩ := ih later
        exact ⟨a :: front, b, tail, rfl, here, none⟩
      · refine ⟨[], a, as, rfl, ?_, fun b member here => later ⟨b, member, here⟩⟩
        obtain ⟨b, member, here⟩ := present
        rcases List.mem_cons.1 member with rfl | member
        · exact here
        · exact absurd ⟨b, member, here⟩ later

private theorem inside_append_cons {c : Char} (parts : PartsLine c) (front tail : List Char) :
    inside (front ++ c :: tail) = inside front ++ c :: inside tail := by
  rw [inside, List.flatMap_append, List.flatMap_cons, parts.isLineEnd.2.2]
  rfl

/-- A literal with such a character is parted at the last one. -/
theorem exists_torn {s : String} (parted : ∃ c ∈ s.toList, PartsLine c) (after : List Char) :
    ∃ front c tail, literal s ++ after = front ++ c :: (inside tail ++ '"' :: after) ∧
      PartsLine c ∧ Text.Unbroken (inside tail) := by
  obtain ⟨front, c, tail, whole, parts, rest⟩ := exists_last parted
  refine ⟨'"' :: inside front, c, tail, ?_, parts, unbroken_inside rest⟩
  rw [literal, whole, inside_append_cons parts]
  simp only [List.cons_append, List.append_assoc, List.nil_append]

end Json

open Json

/-- A result that the build script prints. -/
inductive Printed where
  | made (script style : String)
  | failed (reason : Failure)

namespace Printed

/-- The result, as it is read. -/
def result : Printed → BuildResult
  | made script style => { script, style }
  | failed reason => { error := some reason }

/-- The object that is printed. -/
def text : Printed → List Char
  | made script style => objectText [("script", literal script), ("style", literal style)]
  | failed reason => objectText
      [("error", objectText [("message", literal reason.message), ("file", literal reason.file)])]

/-- The line that is printed, without its end. -/
def line (p : Printed) : String := String.ofList p.text

/-- The text that is printed first. -/
def first : Printed → String
  | made script _ => script
  | failed reason => reason.message

/-- The text that is printed after the first one. -/
def second : Printed → String
  | made _ style => style
  | failed reason => reason.file

/-- Neither text has a character that parts the line. -/
def Joined (p : Printed) : Prop :=
  (∀ c ∈ p.first.toList, ¬PartsLine c) ∧ ∀ c ∈ p.second.toList, ¬PartsLine c

instance (p : Printed) : Decidable p.Joined :=
  decidable_of_iff (p.first.toList.all (¬PartsLine ·) = true ∧
    p.second.toList.all (¬PartsLine ·) = true) (by simp [Joined, List.all_eq_true])

variable (r : Rules) (level : Nat)

private theorem reads_pair (name name' s t : String) :
    Reads (readValue r (level + 1)) (objectText [(name, literal s), (name', literal t)])
      (.obj (Named.ofPairs [(name, .str s), (name', .str t)])) := by
  have each : ∀ f ∈ [Written.mk name (literal s) (.str s), Written.mk name' (literal t) (.str t)],
      f.ReadBy (readValue r level) := by
    rw [List.forall_mem_cons, List.forall_mem_singleton]
    exact ⟨reads_literal level s, reads_literal level t⟩
  exact Reads.object each (List.cons_ne_nil _ _)

private theorem reads_nested (name : String) {text : List Char} {v : Json}
    (reads : Reads (readValue r level) text v) :
    Reads (readValue r (level + 1)) (objectText [(name, text)])
      (.obj (Named.ofPairs [(name, v)])) := by
  have each : ∀ f ∈ [Written.mk name text v], f.ReadBy (readValue r level) := by
    rw [List.forall_mem_singleton]
    exact reads
  exact Reads.object each (List.cons_ne_nil _ _)

private theorem ofLine_line (p : Printed) : BuildResult.ofLine p.line = .ok p.result := by
  rw [BuildResult.ofLine_eq_ok_iff]
  cases p with
  | made script style =>
      have reads := reads_pair tightRules 199 "script" "style" script style
      exact ⟨_, ofStrict?_of_reads reads, rfl⟩
  | failed reason =>
      have inner := reads_pair tightRules 198 "message" "file" reason.message reason.file
      have reads := reads_nested tightRules 199 "error" inner
      exact ⟨_, ofStrict?_of_reads reads, rfl⟩

/-- What is printed in front of the first text's literal. -/
def opening : Printed → List Char
  | made _ _ => '\x7b' :: (literal "script" ++ [':'])
  | failed _ => '\x7b' :: (literal "error" ++ ':' :: '\x7b' :: (literal "message" ++ [':']))

/-- The name of the second text. -/
def key : Printed → String
  | made _ _ => "style"
  | failed _ => "file"

/-- How many objects the texts stand in. -/
def depth : Printed → Nat
  | made _ _ => 1
  | failed _ => 2

/-- What is printed after the second text's literal. -/
def closing (p : Printed) : List Char := List.replicate p.depth '\x7d'

/-- What is printed after the first text's literal. -/
def middle (p : Printed) : List Char :=
  ',' :: (literal p.key ++ ':' :: (literal p.second ++ p.closing))

private theorem text_eq (p : Printed) : p.text = p.opening ++ (literal p.first ++ p.middle) := by
  cases p <;>
    simp only [text, objectText, fieldsText, opening, middle, key, first, second, closing,
      Printed.depth, List.cons_append, List.append_assoc, List.nil_append, List.replicate]

private theorem unbroken_opening (p : Printed) : Text.Unbroken p.opening := by
  apply Text.unbroken_of_all
  cases p with
  | made _ _ => rfl
  | failed _ => rfl

private theorem unbroken_closing (p : Printed) : Text.Unbroken p.closing := by
  intro c member
  obtain rfl := List.eq_of_mem_replicate member
  rfl

/-- The name of the second text begins with a letter that is no colon. -/
theorem literal_key (p : Printed) : ∃ c more, literal p.key = '"' :: c :: more ∧
    isGap c = false ∧ c ≠ ':' ∧ Text.Unbroken (c :: more) := by
  have style : literal "style" = ['"', 's', 't', 'y', 'l', 'e', '"'] := rfl
  have file : literal "file" = ['"', 'f', 'i', 'l', 'e', '"'] := rfl
  cases p with
  | made _ _ => exact ⟨'s', _, style, rfl, by decide, Text.unbroken_of_all rfl⟩
  | failed _ => exact ⟨'f', _, file, rfl, by decide, Text.unbroken_of_all rfl⟩

private theorem unbroken_middle {p : Printed} (joined : ∀ c ∈ p.second.toList, ¬PartsLine c) :
    Text.Unbroken p.middle := by
  obtain ⟨c, more, named, -, -, unbroken⟩ := literal_key p
  simp only [middle, named, Text.unbroken_cons_iff, Text.unbroken_append_iff] at unbroken ⊢
  exact ⟨rfl, ⟨rfl, unbroken⟩, rfl, unbroken_literal joined, unbroken_closing p⟩

private theorem unbroken_text {p : Printed} (joined : p.Joined) : Text.Unbroken p.text := by
  rw [text_eq, Text.unbroken_append_iff, Text.unbroken_append_iff]
  exact ⟨unbroken_opening p, unbroken_literal joined.1, unbroken_middle joined.2⟩

private theorem unread_middle (p : Printed) (item : ItemReader) (bound : Nat)
    (found : List (String × Json) × List Char) :
    readFields tightRules item bound ('"' :: p.middle) ≠ .ok found := by
  obtain ⟨c, more, named, solid, other, -⟩ := literal_key p
  rw [middle, named]
  exact readFields_comma solid other _

/-- What is left behind a character that parts the line: the rest of a literal and what follows
it, no part of which is parted again. -/
structure LeftOver (p : Printed) (front : List Char) (c : Char) (tail after : List Char) :
    Prop where
  text : p.text = front ++ c :: (inside tail ++ '"' :: after)
  parts : PartsLine c
  unbroken : Text.Unbroken (inside tail ++ '"' :: after)
  unread : ∀ item bound found, readFields tightRules item bound ('"' :: after) ≠ .ok found

private theorem exists_leftOver {p : Printed} (parted : ¬p.Joined) :
    ∃ front c tail after, LeftOver p front c tail after := by
  -- The last of these characters stands in the second text if that one has any.
  by_cases joined : ∀ c ∈ p.second.toList, ¬PartsLine c
  · have parted : ∃ c ∈ p.first.toList, PartsLine c := by
      by_contra none
      push Not at none
      exact parted ⟨none, joined⟩
    obtain ⟨front, c, tail, torn, parts, rest⟩ := exists_torn parted p.middle
    refine ⟨p.opening ++ front, c, tail, p.middle, ?_, parts,
      Text.unbroken_append_iff.2 ⟨rest, ?_⟩, unread_middle p⟩
    · rw [text_eq, torn, List.append_assoc]
    · exact Text.unbroken_cons_iff.2 ⟨rfl, unbroken_middle joined⟩
  · push Not at joined
    obtain ⟨front, c, tail, torn, parts, rest⟩ := exists_torn joined p.closing
    refine ⟨p.opening ++ (literal p.first ++ ',' :: (literal p.key ++ ':' :: front)), c, tail,
      p.closing, ?_, parts, Text.unbroken_append_iff.2 ⟨rest, ?_⟩,
      fun _ _ _ => readFields_braces p.depth⟩
    · rw [text_eq, middle, torn]
      simp only [List.cons_append, List.append_assoc]
    · exact Text.unbroken_cons_iff.2 ⟨rfl, unbroken_closing p⟩

end Printed

namespace BuildResult

open Printed

/-- What follows the last line end is what is read, if it is not blank. -/
theorem ofOutput_append_tail {c : Char} {tail : List Char} (ends : Text.isLineEnd c = true)
    (single : c ≠ '\r') (unbroken : Text.Unbroken tail) (quoted : '"' ∈ tail) {output : String}
    (front : List Char) (whole : output.toList = front ++ c :: (tail ++ ['\n'])) :
    ofOutput output = ofLine (String.ofList tail) := by
  have written : (!Text.isBlankText (String.ofList tail)) = true := by
    rw [Bool.not_eq_true', Text.isBlankText, String.toList_ofList, List.all_eq_false]
    exact ⟨'"', quoted, by decide⟩
  have split : Text.lines output =
      (Text.linesFrom [] (front ++ [c])).map String.ofList ++ [String.ofList tail] := by
    rw [Text.lines, whole, Text.linesFrom_append_tail ends single unbroken, List.map_append,
      List.map_singleton]
  have last : ((Text.lines output).filter (!Text.isBlankText ·)).getLast? =
      some (String.ofList tail) :=
    getLast?_filter_eq_some_iff.2 ⟨_, [], split, written, nofun⟩
  rw [ofOutput, last]

private theorem ofLine_leftOver {p : Printed} {front tail after : List Char} {c : Char}
    (left : LeftOver p front c tail after) :
    ofLine (String.ofList (inside tail ++ '"' :: after)) =
      .error (.noResult (String.ofList (inside tail ++ '"' :: after))) := by
  have remnant (fields : List (String × Json)) :
      readChars tightRules (inside tail ++ '"' :: after) ≠ .ok (.obj fields) :=
    readChars_remnant left.unread tail
  rw [ofLine, ofStrict?, String.toList_ofList]
  cases read : readChars tightRules (inside tail ++ '"' :: after) with
  | error fault => rfl
  | ok v =>
      cases v with
      | obj fields => exact absurd read (remnant fields)
      | _ => rfl

/-- What is left behind the last character that parts the line is refused. -/
theorem ofOutput_parted {p : Printed} (parted : ¬p.Joined) (noise : String) :
    ∃ line, (Text.lines p.line).getLast? = some line ∧
      ofOutput (noise ++ "\n" ++ p.line ++ "\n") = .error (.noResult line) := by
  obtain ⟨front, c, tail, after, left⟩ := exists_leftOver parted
  obtain ⟨ends, single, -⟩ := left.parts.isLineEnd
  refine ⟨String.ofList (inside tail ++ '"' :: after), ?_, ?_⟩
  · rw [Text.lines, line, String.toList_ofList, left.text, Text.linesFrom_append_end ends single,
      Text.linesFrom_unbroken left.unbroken (by simp), List.map_append, List.map_singleton,
      List.getLast?_concat]
  · have output : (noise ++ "\n" ++ p.line ++ "\n").toList =
        (noise.toList ++ '\n' :: front) ++ c :: (inside tail ++ '"' :: after ++ ['\n']) := by
      simp [line, left.text]
    rw [ofOutput_append_tail ends single left.unbroken (by simp) _ output, ofLine_leftOver left]

/-- A line that joins no other is the result, whatever is printed before it. -/
theorem ofOutput_joined {p : Printed} (joined : p.Joined) (noise : String) :
    ofOutput (noise ++ "\n" ++ p.line ++ "\n") = .ok p.result := by
  have quoted : '"' ∈ p.text := by
    rw [text_eq, literal]
    simp
  have output : (noise ++ "\n" ++ p.line ++ "\n").toList =
      noise.toList ++ '\n' :: (p.text ++ ['\n']) := by
    simp [line]
  rw [ofOutput_append_tail rfl (by decide) (unbroken_text joined) quoted _ output]
  exact ofLine_line p

/-- A result is read back from behind whatever else was printed if no character of its texts
parts its line, and otherwise what is left behind the last one that does is refused. -/
theorem ofOutput_printed (noise : String) (p : Printed) :
    (ofOutput (noise ++ "\n" ++ p.line ++ "\n") = .ok p.result ↔ p.Joined) ∧
      (¬p.Joined → ∃ line, (Text.lines p.line).getLast? = some line ∧
        ofOutput (noise ++ "\n" ++ p.line ++ "\n") = .error (.noResult line)) := by
  refine ⟨⟨?_, fun joined => ofOutput_joined joined noise⟩,
    fun parted => ofOutput_parted parted noise⟩
  intro read
  by_contra parted
  obtain ⟨line, -, refused⟩ := ofOutput_parted parted noise
  cases read.symm.trans refused

/-- A warning in front does no harm, and neither does a quote in the script. -/
theorem ofOutput_printed_warning :
    ofOutput ("warning" ++ "\n" ++ (made "a(\"b\")" "").line ++ "\n") =
      .ok ⟨"a(\"b\")", "", none⟩ :=
  (ofOutput_printed "warning" (made "a(\"b\")" "")).1.2
    ⟨not_partsLine_of_unbroken (Text.unbroken_of_all rfl),
      not_partsLine_of_unbroken (Text.unbroken_of_all rfl)⟩

/-- A line separator in the style parts the line, and what is left is refused. -/
theorem ofOutput_separator :
    ofOutput ("" ++ "\n" ++ (made "" "\u2028").line ++ "\n") = .error (.noResult "\"\x7d") := by
  rfl

end BuildResult

end WebPreview
