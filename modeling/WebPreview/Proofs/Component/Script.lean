import WebPreview.Proofs.Component.Blocks
import WebPreview.Proofs.Component.Export
import WebPreview.Proofs.Document.Slots

/-! # Components in a script element

The script that runs a component stands in a script element, which its first end tag closes. No
end tag comes from the component's own script, since a script block is read up to the first one,
and none from a literal, since there every `</` is broken up. What is written between the two
parts them so far that no end tag arises where they meet. So the element is closed by its own end
tag only, whatever the component's source is (`WebPreview.Component.toScript_closesAtEnd`).
-/

namespace WebPreview

open Text

namespace Document

/-- The tag that closes a script element. -/
def endTag : String := "</script>"

/-- Behind the tag that opens it the element holds its code up to the first end tag, and that is
the last thing in it. -/
def ClosesAtEnd (code : String) (type? : Option String) : Prop :=
  ∃ inside, scriptBlock code type? = openTag type? ++ inside ∧ FirstAt endTag inside code ""

private theorem closesAtEnd_of_unclosed {code : String} (unclosed : occurs endTag code = false)
    (type? : Option String) : ClosesAtEnd code type? := by
  refine ⟨code ++ endTag, ?_, firstAt_iff.2 ?_⟩
  · rw [scriptBlock_eq, String.append_assoc]
    rfl
  · have once : '<' ∉ "/script>".toList := by decide
    have split := splitFirst?_of_not_infix once (occurs_eq_false_iff.1 unclosed) []
    rw [List.append_nil] at split
    rw [String.toList_append]
    exact split

end Document

namespace Component

open Document (endTag)

/-- Neither the start nor the end of an end tag stands in the text, and something that is in no
end tag. -/
def Parts (sep : String) : Prop :=
  '<' ∉ sep.toList ∧ '>' ∉ sep.toList ∧ ∃ c ∈ sep.toList, c ∉ endTag.toList

/-- No end tag arises where two texts meet that are parted. -/
theorem occurs_between {sep a b : String} (parts : Parts sep) (front : occurs endTag a = false)
    (behind : occurs endTag b = false) : occurs endTag (a ++ sep ++ b) = false := by
  rw [occurs_eq_false_iff] at front behind ⊢
  rw [String.toList_append, String.toList_append]
  obtain ⟨opens, closes, parted⟩ := parts
  have either := infix_between_iff (p := "/script".toList) (a := a.toList) (b := b.toList)
    opens closes parted
  exact fun inside => (either.1 inside).elim front behind

private theorem occurs_before {sep a : String} (parts : Parts sep)
    (front : occurs endTag a = false) :
    occurs endTag (a ++ sep) = false := by
  have whole := occurs_between (b := "") parts front rfl
  rwa [String.append_empty] at whole

private theorem occurs_script (source : String) :
    occurs endTag (ofSource source).script = false := by
  rw [occurs_eq_false_iff, toList_script]
  intro inside
  replace inside := inside.trans (isInfix_trimChars _)
  cases found : firstBlock? "script".toList source.toList with
  | none =>
      rw [found] at inside
      cases List.infix_nil.1 inside
  | some block =>
      rw [found] at inside
      obtain ⟨body, behind, -, split⟩ := firstBlock?_eq_some_iff.1 found
      exact not_infix_of_splitFirst? split (by decide) inside

/-- A part of a text without an end tag has none. -/
theorem occurs_ofList {cs : List Char} {text : String} (part : cs <:+: text.toList)
    (unclosed : occurs endTag text = false) : occurs endTag (String.ofList cs) = false := by
  rw [occurs_eq_false_iff] at unclosed ⊢
  rw [String.toList_ofList]
  exact fun inside => unclosed (inside.trans part)

private theorem occurs_declare {script : String} (unclosed : occurs endTag script = false) :
    occurs endTag (declare script) = false := by
  cases split : splitExport? false script.toList with
  | some parts =>
      obtain ⟨pre, post⟩ := parts
      obtain ⟨front, behind⟩ := parts_of_splitExport? split
      have before := occurs_ofList front.isInfix unclosed
      have after := occurs_ofList behind.isInfix unclosed
      rw [declare_of_some split]
      exact occurs_between ⟨by decide, by decide, ' ', by decide, by decide⟩ before after
  | none =>
      have whole : occurs endTag (script ++ emptyDeclaration) = false :=
        occurs_before ⟨by decide, by decide, ' ', by decide, by decide⟩ unclosed
      rw [declare_of_none split]
      exact occurs_ofList (List.dropWhile_suffix isBlank).isInfix whole

private theorem head?_breakClosings (cs : List Char) : (breakClosings cs).head? = cs.head? := by
  unfold breakClosings
  split <;> rfl

private theorem not_infix_breakClosings (cs : List Char) : ¬['<', '/'] <:+: breakClosings cs := by
  induction cs using breakClosings.induct with
  | case1 cs ih =>
      simp only [breakClosings, List.infix_cons_iff, List.cons_prefix_cons, Char.reduceEq,
        false_and, and_false, ih, or_self, not_false_eq_true]
  | case2 c cs unbroken ih =>
      rw [breakClosings.eq_2 c cs unbroken, List.infix_cons_iff, List.cons_prefix_cons, not_or]
      refine ⟨?_, ih⟩
      rintro ⟨rfl, tail, more⟩
      have first := head?_breakClosings cs
      rw [← more] at first
      cases cs with
      | nil => cases first
      | cons d cs =>
          obtain rfl := Option.some.inj first
          exact unbroken cs rfl rfl
  | case3 =>
      intro inside
      cases List.infix_nil.1 inside

private theorem occurs_literal (s : String) : occurs endTag (literal s) = false := by
  rw [occurs_eq_false_iff, literal, String.toList_ofList]
  intro inside
  have front : ['<', '/'] <+: endTag.toList := ⟨"script>".toList, rfl⟩
  exact not_infix_breakClosings _ (front.isInfix.trans inside)

/-- A component's script holds no end tag, whatever its source and the place it is mounted at, and
the element that it stands in ends behind it. -/
theorem toScript_closesAtEnd (source mount : String) :
    occurs endTag ((ofSource source).toScript mount) = false ∧
      ∀ type?, Document.ClosesAtEnd ((ofSource source).toScript mount) type? := by
  have declared := occurs_declare (occurs_script source)
  have unclosed : occurs endTag ((ofSource source).toScript mount) = false := by
    rw [toScript_eq]
    have attached : occurs endTag (_ ++ attachment ++ literal (ofSource source).template) = false :=
      occurs_between ⟨by decide, by decide, ' ', by decide, by decide⟩ declared (occurs_literal _)
    have mounted : occurs endTag (_ ++ mounting ++ literal mount) = false :=
      occurs_between ⟨by decide, by decide, '\n', by decide, by decide⟩ attached (occurs_literal _)
    exact occurs_before ⟨by decide, by decide, ')', by decide, by decide⟩ mounted
  exact ⟨unclosed, Document.closesAtEnd_of_unclosed unclosed⟩

end Component

end WebPreview
