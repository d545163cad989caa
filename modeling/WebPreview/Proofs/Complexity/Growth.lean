import Mathlib.Data.List.Basic
import WebPreview.Complexity
import WebPreview.Proofs.Text.Boundaries

/-! # Sources that grow

The look at a source goes from left to right and stops as soon as it has seen enough. So a source
that needs the full compiler needs it still when lines are put in front of it and any text behind
it (`WebPreview.Complexity.needsFullCompile_surrounded`).

Two things carry this. A test that passes at the front of a text does not depend on what follows
the part that it has looked at (`WebPreview.Complexity.LooksAhead`). And a place where a search
may start is still one when the text in front of it grows by whole lines, since a line feed is no
part of a word.
-/

namespace WebPreview

namespace Text

variable {p : Char → Bool} {c : Char} {pat cs rest pre post : List Char}

private theorem after?_append (found : after? pat cs = some rest) (more : List Char) :
    after? pat (cs ++ more) = some (rest ++ more) := by
  rw [after?_eq_some_iff] at found ⊢
  rw [found, List.append_assoc]

/-- Dropping stops where it did if it stopped within the text. -/
theorem dropWhile_append_of_cons (stops : cs.dropWhile p = c :: rest) (more : List Char) :
    (cs ++ more).dropWhile p = c :: (rest ++ more) := by
  rw [List.dropWhile_append, stops]
  rfl

private theorem trimStart_append_of_cons (stops : trimStart cs = c :: rest) (more : List Char) :
    trimStart (cs ++ more) = c :: (rest ++ more) :=
  dropWhile_append_of_cons stops more

private theorem trimStart_dropWhile_append_of_cons (stops : trimStart (cs.dropWhile p) = c :: rest)
    (more : List Char) : trimStart ((cs ++ more).dropWhile p) = c :: (rest ++ more) := by
  cases left : cs.dropWhile p with
  | nil =>
      rw [left] at stops
      cases stops
  | cons d left' =>
      rw [left] at stops
      rw [dropWhile_append_of_cons left]
      exact trimStart_append_of_cons stops more

private theorem after?_trimStart_append (something : pat ≠ [])
    (found : after? pat (trimStart cs) = some rest) (more : List Char) :
    after? pat (trimStart (cs ++ more)) = some (rest ++ more) := by
  cases pat with
  | nil => exact absurd rfl something
  | cons c pat =>
      have stops : trimStart cs = c :: (pat ++ rest) := after?_eq_some_iff.1 found
      rw [trimStart_append_of_cons stops, List.append_assoc]
      exact after?_eq_some_iff.2 rfl

private theorem splitFirst?_append_right (split : splitFirst? pat cs = some (pre, post))
    (more : List Char) : splitFirst? pat (cs ++ more) = some (pre, post ++ more) := by
  rw [splitFirst?_eq_some_iff] at split ⊢
  obtain ⟨rfl, least⟩ := split
  refine ⟨List.append_assoc _ _ _, fun a b other => ?_⟩
  by_contra earlier
  -- An occurrence that starts further in front ends further in front, so within the old text.
  have inside : a ++ pat <+: pre ++ pat ++ post := by
    refine List.prefix_of_prefix_length_le ⟨b, other.symm⟩ (List.prefix_append _ more) ?_
    simp only [List.length_append]
    omega
  obtain ⟨tail, same⟩ := inside
  exact earlier (least a tail same.symm)

private theorem endsWord_append_of_ne_nil (something : cs ≠ []) (more : List Char) :
    endsWord (cs ++ more) = endsWord cs := by
  cases cs with
  | nil => exact absurd rfl something
  | cons c cs => rfl

/-- Some tail passes a test exactly if one of the tails does. -/
theorem anyTail_iff {p : List Char → Bool} :
    anyTail p cs = true ↔ ∃ tail, tail <:+ cs ∧ p tail = true := by
  induction cs with
  | nil => simp [anyTail]
  | cons c cs ih =>
      rw [anyTail, Bool.or_eq_true, ih]
      simp only [List.suffix_cons_iff, or_and_right, exists_or, exists_eq_left]

end Text

namespace Complexity

open Text

variable {p : List Char → Bool} {c : Char} {cs rest : List Char}

/-- A search at the starts of words finds a place in front of which no word is under way. -/
theorem anyWordStart_iff {inWord : Bool} :
    anyWordStart p inWord cs = true ↔
      ∃ front tail, cs = front ++ tail ∧ p tail = true ∧ underWay inWord front = false := by
  induction cs generalizing inWord with
  | nil =>
      simp only [anyWordStart, Bool.and_eq_true, Bool.not_eq_true', List.nil_eq,
        List.append_eq_nil_iff]
      constructor
      · intro passed
        exact ⟨[], [], ⟨rfl, rfl⟩, passed.2, passed.1⟩
      · intro found
        obtain ⟨front, tail, ⟨rfl, rfl⟩, passed, free⟩ := found
        exact ⟨free, passed⟩
  | cons c cs ih =>
      simp only [anyWordStart, Bool.or_eq_true, Bool.and_eq_true, Bool.not_eq_true', ih]
      constructor
      · intro passed
        rcases passed with here | ⟨front, tail, rfl, passed, free⟩
        · exact ⟨[], c :: cs, rfl, here.2, here.1⟩
        · exact ⟨c :: front, tail, rfl, passed, free⟩
      · intro found
        obtain ⟨front, tail, same, passed, free⟩ := found
        cases front with
        | nil =>
            rw [List.nil_append] at same
            exact .inl ⟨free, same ▸ passed⟩
        | cons d front =>
            obtain ⟨rfl, rfl⟩ := List.cons.inj same
            exact .inr ⟨front, tail, rfl, passed, free⟩

/-- What passes the test at the front of a text passes it whatever follows. -/
def LooksAhead (p : List Char → Bool) : Prop :=
  ∀ cs more, p cs = true → p (cs ++ more) = true

namespace LooksAhead

private theorem anyTail (ahead : LooksAhead p) (front more : List Char)
    (passed : anyTail p cs = true) :
    Text.anyTail p (front ++ (cs ++ more)) = true := by
  obtain ⟨tail, ⟨before, rfl⟩, here⟩ := anyTail_iff.1 passed
  refine anyTail_iff.2 ⟨tail ++ more, ⟨front ++ before, ?_⟩, ahead tail more here⟩
  simp only [List.append_assoc]

/-- Where a word may start in a text, one may start behind more lines. -/
theorem anyWordStart (ahead : LooksAhead p) {front : List Char}
    (lines : ∀ c ∈ front.getLast?, c = '\n') (more : List Char)
    (passed : anyWordStart p false cs = true) :
    Complexity.anyWordStart p false (front ++ (cs ++ more)) = true := by
  obtain ⟨before, tail, rfl, here, free⟩ := anyWordStart_iff.1 passed
  have between : underWay false front = false := by
    cases ends : front.getLast? with
    | none =>
        rw [List.getLast?_eq_none_iff.1 ends]
        rfl
    | some c =>
        obtain rfl := lines c ends
        obtain ⟨line, rfl⟩ := List.getLast?_eq_some_iff.1 ends
        rw [underWay_append]
        rfl
  refine anyWordStart_iff.2 ⟨front ++ before, tail ++ more, ?_, ahead tail more here, ?_⟩
  · simp only [List.append_assoc]
  · rwa [underWay_append, between]

end LooksAhead

/-- What follows a word, blanks and the first character of a name. -/
def afterNamed? (word cs : List Char) : Option (List Char) := do
  afterOne? isNameStart (← afterBlanks? (← after? word cs))

private theorem afterOne?_eq_some_iff {p : Char → Bool} :
    afterOne? p cs = some rest ↔ ∃ c, p c = true ∧ cs = c :: rest := by
  cases cs with
  | nil => simp [afterOne?]
  | cons c cs => simp [afterOne?]

private theorem afterBlanks?_append (found : afterBlanks? cs = some (c :: rest))
    (more : List Char) :
    afterBlanks? (cs ++ more) = some (c :: (rest ++ more)) := by
  cases cs with
  | nil => cases found
  | cons d cs =>
      rw [afterBlanks?, Option.ite_none_right_eq_some] at found
      obtain ⟨blank, stops⟩ := found
      rw [List.cons_append, afterBlanks?, if_pos blank,
        trimStart_append_of_cons (Option.some.inj stops)]

private theorem afterNamed?_append {word : List Char} (found : afterNamed? word cs = some rest)
    (more : List Char) : afterNamed? word (cs ++ more) = some (rest ++ more) := by
  simp only [afterNamed?, Option.bind_eq_bind, Option.bind_eq_some_iff] at found ⊢
  obtain ⟨gap, worded, name, spaced, named⟩ := found
  obtain ⟨c, starts, rfl⟩ := afterOne?_eq_some_iff.1 named
  exact ⟨_, after?_append worded more, _, afterBlanks?_append spaced more,
    afterOne?_eq_some_iff.2 ⟨c, starts, rfl⟩⟩

/-- What follows a closing bracket, a colon and the first character of a name. -/
def afterTyped? (cs : List Char) : Option (List Char) := do
  let rest ← after? [')'] cs
  let rest ← after? [':'] (trimStart rest)
  afterOne? isNameStart (trimStart rest)

private theorem afterTyped?_append (found : afterTyped? cs = some rest) (more : List Char) :
    afterTyped? (cs ++ more) = some (rest ++ more) := by
  simp only [afterTyped?, Option.bind_eq_bind, Option.bind_eq_some_iff] at found ⊢
  obtain ⟨a, closed, b, typed, named⟩ := found
  obtain ⟨c, starts, stops⟩ := afterOne?_eq_some_iff.1 named
  refine ⟨_, after?_append closed more, _, after?_trimStart_append (by decide) typed more, ?_⟩
  rw [trimStart_append_of_cons stops]
  exact afterOne?_eq_some_iff.2 ⟨c, starts, rfl⟩

/-- Whether an assignment stands at the front, behind parameters or at once. -/
def assignmentAhead : List Char → Bool
  | '<' :: parameters =>
    match splitFirst? ['>'] parameters with
    | some (_, rest) => equalsAhead rest
    | none => false
  | rest => equalsAhead rest

private theorem assignmentAhead_open (cs : List Char) : assignmentAhead ('<' :: cs) =
    ((splitFirst? ['>'] cs).map Prod.snd).any equalsAhead := by
  rw [assignmentAhead]
  cases splitFirst? ['>'] cs <;> rfl

private theorem assignmentAhead_of_ne (plain : c ≠ '<') :
    assignmentAhead (c :: cs) = equalsAhead (c :: cs) := by
  unfold assignmentAhead
  split
  · next same => exact absurd (List.cons.inj same).1 plain
  · rfl

private theorem aliasAhead_eq (cs : List Char) : aliasAhead cs = (afterNamed? "type".toList cs).any
    fun rest => assignmentAhead (trimStart (rest.dropWhile isNamePart)) := by
  have named : (do afterOne? isNameStart (← afterBlanks? (← after? "type".toList cs))) =
      afterNamed? "type".toList cs := rfl
  rw [aliasAhead, named]
  cases afterNamed? "type".toList cs with
  | none => rfl
  | some rest =>
      dsimp only [Option.any_some]
      generalize trimStart (rest.dropWhile isNamePart) = left
      split
      · next parameters =>
          rw [assignmentAhead_open]
          cases splitFirst? ['>'] parameters <;> rfl
      · next plain =>
          cases left with
          | nil => rfl
          | cons c left =>
              rw [assignmentAhead_of_ne fun same => plain left (same ▸ rfl)]

/-- Whether an arrow or an opening brace stands at the front. -/
def bodyAhead : List Char → Bool
  | '=' :: '>' :: _ => true
  | c :: _ => c == '\x7b'
  | [] => false

private theorem returnTypeAhead_eq (cs : List Char) : returnTypeAhead cs = (afterTyped? cs).any
    fun rest => bodyAhead (trimStart (rest.dropWhile isTypePart)) := by
  have typed : (do
      let rest ← after? [')'] cs
      let rest ← after? [':'] (trimStart rest)
      afterOne? isNameStart (trimStart rest)) = afterTyped? cs := rfl
  rw [returnTypeAhead, typed]
  cases afterTyped? cs <;> rfl

namespace LooksAhead

private theorem importAhead : LooksAhead importAhead := by
  intro cs more passed
  unfold Complexity.importAhead at passed ⊢
  split at passed
  · next c r found =>
      rw [after?_trimStart_append (by decide) found]
      exact passed
  · cases passed

private theorem interfaceAhead : LooksAhead interfaceAhead := by
  intro cs more passed
  obtain ⟨rest, found⟩ := Option.isSome_iff_exists.1 passed
  exact Option.isSome_of_eq_some (afterNamed?_append found more)

private theorem equalsAhead : LooksAhead equalsAhead := by
  intro cs more passed
  unfold Complexity.equalsAhead at passed ⊢
  cases stops : trimStart cs with
  | nil =>
      rw [stops] at passed
      cases passed
  | cons c rest =>
      rw [trimStart_append_of_cons stops]
      rwa [stops] at passed

/-- A test behind some characters and blanks looks ahead if it needs something to look at. -/
theorem behind {q : Char → Bool} (ahead : LooksAhead p) (needs : p [] = false) (more : List Char)
    (passed : p (trimStart (cs.dropWhile q)) = true) :
    p (trimStart ((cs ++ more).dropWhile q)) = true := by
  cases stops : trimStart (cs.dropWhile q) with
  | nil =>
      rw [stops, needs] at passed
      cases passed
  | cons c left =>
      rw [trimStart_dropWhile_append_of_cons stops]
      rw [stops] at passed
      exact ahead (c :: left) more passed

private theorem assignmentAhead : LooksAhead assignmentAhead := by
  intro cs more passed
  unfold Complexity.assignmentAhead at passed
  split at passed
  · split at passed
    · next closed =>
        rw [List.cons_append, assignmentAhead_open, splitFirst?_append_right closed]
        exact equalsAhead _ more passed
    · cases passed
  · next plain =>
      cases cs with
      | nil => cases passed
      | cons c cs =>
          rw [List.cons_append, assignmentAhead_of_ne fun same => plain cs (same ▸ rfl)]
          exact equalsAhead (c :: cs) more passed

private theorem aliasAhead : LooksAhead aliasAhead := by
  intro cs more passed
  rw [aliasAhead_eq, Option.any_eq_true] at passed ⊢
  obtain ⟨rest, found, passed⟩ := passed
  exact ⟨_, afterNamed?_append found more, assignmentAhead.behind rfl more passed⟩

private theorem bodyAhead : LooksAhead bodyAhead := by
  intro cs more passed
  unfold Complexity.bodyAhead at passed
  split at passed
  · rfl
  · obtain rfl := eq_of_beq passed
    rfl
  · cases passed

private theorem returnTypeAhead : LooksAhead returnTypeAhead := by
  intro cs more passed
  rw [returnTypeAhead_eq, Option.any_eq_true] at passed ⊢
  obtain ⟨rest, found, passed⟩ := passed
  exact ⟨_, afterTyped?_append found more, bodyAhead.behind rfl more passed⟩

end LooksAhead

private theorem lineCount_surrounded (front cs more : List Char) :
    lineCount cs ≤ lineCount (front ++ (cs ++ more)) := by
  simp only [lineCount, List.count_append]
  omega

private theorem hasImport_surrounded {front : List Char} (lines : ∀ c ∈ front.getLast?, c = '\n')
    (more : List Char) (imports : hasImport cs = true) :
    hasImport (front ++ (cs ++ more)) = true := by
  rw [hasImport, Bool.or_eq_true] at imports ⊢
  rcases imports with here | later
  · have ahead := LooksAhead.importAhead cs more here
    cases ends : front.getLast? with
    | none =>
        rw [List.getLast?_eq_none_iff.1 ends, List.nil_append]
        exact .inl ahead
    | some c =>
        -- The line feed that ends the lines in front starts the tail in which the import stands.
        obtain rfl := lines c ends
        obtain ⟨line, rfl⟩ := List.getLast?_eq_some_iff.1 ends
        refine .inr (anyTail_iff.2 ⟨'\n' :: (cs ++ more), ⟨line, ?_⟩, ahead⟩)
        simp only [List.append_assoc, List.singleton_append]
  · refine .inr (LooksAhead.anyTail ?_ front more later)
    intro tail more passed
    dsimp only at passed ⊢
    split at passed
    · exact LooksAhead.importAhead _ more passed
    · cases passed

private theorem hasTag_surrounded {opening : String} (front more : List Char)
    (tagged : hasTag opening cs = true) : hasTag opening (front ++ (cs ++ more)) = true := by
  refine LooksAhead.anyTail ?_ front more tagged
  intro tail more passed
  dsimp only at passed ⊢
  split at passed
  · next found =>
      rw [after?_append found]
      exact passed
  · cases passed

private theorem hasScopedStyle_surrounded (front more : List Char)
    (styled : hasScopedStyle cs = true) :
    hasScopedStyle (front ++ (cs ++ more)) = true := by
  refine LooksAhead.anyTail ?_ front more styled
  intro tail more passed
  dsimp only at passed ⊢
  split at passed
  · next rest found =>
      rw [after?_append found]
      split at passed
      · next closed =>
          have something : rest ≠ [] := by
            rw [(splitFirst?_eq_some_iff.1 closed).1]
            simp
          dsimp only
          rw [splitFirst?_append_right closed, endsWord_append_of_ne_nil something]
          exact passed
      · cases passed
  · cases passed

/-- A source that needs the full compiler needs it behind whole lines and in front of any text. -/
theorem needsFullCompile_of_lines {front source : String} {framework : Framework}
    (lines : ∀ c ∈ front.toList.getLast?, c = '\n') (behind : String)
    (complex : needsFullCompile source framework = true) :
    needsFullCompile (front ++ source ++ behind) framework = true := by
  have parts : (front ++ source ++ behind).toList =
      front.toList ++ (source.toList ++ behind.toList) := by
    simp only [String.toList_append, List.append_assoc]
  cases framework with
  | vanilla => cases complex
  | react =>
      simp only [needsFullCompile, parts, Bool.or_eq_true, decide_eq_true_eq] at complex ⊢
      rcases complex with (((long | imports) | named) | aliased) | typed
      · have more := lineCount_surrounded front.toList source.toList behind.toList
        exact .inl (.inl (.inl (.inl (Nat.lt_of_lt_of_le long more))))
      · exact .inl (.inl (.inl (.inr (hasImport_surrounded lines _ imports))))
      · exact .inl (.inl (.inr (LooksAhead.interfaceAhead.anyWordStart lines _ named)))
      · exact .inl (.inr (LooksAhead.aliasAhead.anyWordStart lines _ aliased))
      · exact .inr (LooksAhead.returnTypeAhead.anyTail _ _ typed)
  | vue =>
      simp only [needsFullCompile, parts, Bool.or_eq_true] at complex ⊢
      rcases complex with template | style
      · exact .inl (hasTag_surrounded _ _ template)
      · exact .inr (hasScopedStyle_surrounded _ _ style)
  | svelte =>
      simp only [needsFullCompile, parts, Bool.and_eq_true] at complex ⊢
      exact ⟨hasTag_surrounded _ _ complex.1, hasTag_surrounded _ _ complex.2⟩

/-- **Growing makes no source simple.** A source that needs the full compiler needs it still with
any text behind it, and with any lines in front of it as well. -/
theorem needsFullCompile_surrounded (framework : Framework) (source before behind : String)
    (complex : needsFullCompile source framework = true) :
    needsFullCompile (before ++ "\n" ++ source ++ behind) framework = true ∧
      needsFullCompile (source ++ behind) framework = true := by
  constructor
  · refine needsFullCompile_of_lines ?_ behind complex
    intro c ends
    have last : (before ++ "\n").toList.getLast? = some '\n' := by
      rw [String.toList_append]
      exact List.getLast?_concat
    rw [last] at ends
    exact (Option.some.inj ends).symm
  · have grown : needsFullCompile ("" ++ source ++ behind) framework = true := by
      refine needsFullCompile_of_lines ?_ behind complex
      intro c ends
      cases ends
    rwa [String.empty_append] at grown

/-- A type with parameters is seen behind half a word of another line and in front of one. -/
theorem needsFullCompile_surrounded_alias :
    needsFullCompile "type A<b> = c" .react = true ∧
      needsFullCompile ("my" ++ "\n" ++ "type A<b> = c" ++ "d") .react = true ∧
      needsFullCompile ("type A<b> = c" ++ "d") .react = true := by
  have complex : needsFullCompile "type A<b> = c" .react = true := by decide
  exact ⟨complex, needsFullCompile_surrounded .react "type A<b> = c" "my" "d" complex⟩

/-- Text in front on the same line can hide what makes a source complex. -/
example : needsFullCompile ("my" ++ "type A<b> = c") .react = false := by decide

end Complexity

end WebPreview
