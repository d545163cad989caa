import WebPreview.Proofs.Component.Script
import WebPreview.Proofs.JavaScript.Literal
import WebPreview.Proofs.Json.Literal

/-! # Literals in a component's script

A literal is the text as a JSON document in which every `</` is broken up by an escape for the
slash. No part of another escape is taken for that, so the literal still stands for the text, in
JSON and in a script (`WebPreview.Component.literal_evaluates`).
-/

namespace WebPreview.Component

open Json (Spells Spelled)

variable {text front cs : List Char}

private theorem breakClosings_cons_of_ne {c : Char} (other : c ≠ '<') (cs : List Char) :
    breakClosings (c :: cs) = c :: breakClosings cs := by
  rw [breakClosings]
  intro _ same
  exact absurd same other

private theorem breakClosings_append (absent : '<' ∉ front) (cs : List Char) :
    breakClosings (front ++ cs) = front ++ breakClosings cs := by
  induction front with
  | nil => rfl
  | cons c front ih =>
      rw [List.mem_cons, not_or] at absent
      have other : c ≠ '<' := fun same => absent.1 same.symm
      rw [List.cons_append, breakClosings_cons_of_ne other, ih absent.2, List.cons_append]

private theorem breakClosings_open (unbroken : ∀ more, cs ≠ '/' :: more) :
    breakClosings ('<' :: cs) = '<' :: breakClosings cs := by
  rw [breakClosings]
  intro more _ same
  exact unbroken more same

private theorem breakClosings_concat {c : Char} (other : c ≠ '/') (cs : List Char) :
    breakClosings (cs ++ [c]) = breakClosings cs ++ [c] := by
  induction cs using breakClosings.induct with
  | case1 cs ih => simp only [List.cons_append, breakClosings, ih]
  | case2 d cs unbroken ih =>
      rw [List.cons_append, breakClosings.eq_2 d cs unbroken, breakClosings.eq_2, ih,
        List.cons_append]
      intro more opened same
      cases cs with
      | nil =>
          rw [List.nil_append] at same
          exact other (List.cons.inj same).1
      | cons e cs =>
          obtain ⟨rfl, -⟩ := List.cons.inj same
          exact unbroken cs opened rfl
  | case3 =>
      rw [List.nil_append, breakClosings.eq_2, breakClosings]
      · rfl
      · intro _ _ same
        cases same

private theorem toList_literal (s : String) :
    (literal s).toList = '"' :: (breakClosings (s.toList.flatMap Json.escapeChar) ++ ['"']) := by
  rw [literal, String.toList_ofList, Json.quote, String.toList_ofList, List.cons_append,
    breakClosings_cons_of_ne (by decide), breakClosings_concat (by decide)]

/-- A slash at the front of a spelled text stands for itself. -/
theorem of_spelled_slash (spelled : Spelled ('/' :: text) cs) :
    ∃ more, cs = '/' :: more ∧ Spelled text more := by
  generalize same : '/' :: text = whole at spelled
  cases spelled with
  | nil => cases same
  | cons first rest =>
      rcases first.plain_or_escape with ⟨rfl, -⟩ | ⟨⟨letters, rfl⟩, -⟩
      · obtain ⟨rfl, rfl⟩ := List.cons.inj same
        exact ⟨_, rfl, rest⟩
      · cases same

/-- A text stays spelled where closing tags are broken up, since `<\/` spells the same. -/
theorem spelled_breakClosings (spelled : Spelled text cs) : Spelled (breakClosings text) cs := by
  induction spelled with
  | nil => exact .nil
  | @cons text more cs c first rest ih =>
      by_cases absent : '<' ∉ text
      · rw [breakClosings_append absent]
        exact .cons first ih
      rcases first.plain_or_escape with ⟨rfl, -⟩ | ⟨-, escape⟩
      · obtain rfl : '<' = c := List.mem_singleton.1 (not_not.1 absent)
        by_cases closes : ∃ tail, more = '/' :: tail
        · obtain ⟨tail, rfl⟩ := closes
          -- The slash gets an escape, and what stands behind it is broken up as before.
          obtain ⟨_, rfl, -⟩ := of_spelled_slash rest
          rw [breakClosings_cons_of_ne (by decide)] at ih
          obtain ⟨_, same, broken⟩ := of_spelled_slash ih
          obtain ⟨-, rfl⟩ := List.cons.inj same
          have slash : Spells ['\\', '/'] '/' := .short rfl
          exact .cons first (.cons slash broken)
        · rw [List.singleton_append, breakClosings_open fun tail same => closes ⟨tail, same⟩]
          exact .cons first ih
      · have plain : '<' ∉ Json.escapeAlphabet := by decide
        exact absurd (escape _ (not_not.1 absent)) plain

private theorem spelled_literal (s : String) :
    Spelled (breakClosings (s.toList.flatMap Json.escapeChar)) s.toList :=
  spelled_breakClosings (Json.spelled_flatMap Json.spells_escapeChar s.toList)

private theorem readChars_literal (r : Json.Rules) (s : String) :
    Json.readChars r (literal s).toList = .ok (.str s) := by
  rw [toList_literal]
  exact Json.readChars_of_reads (Json.reads_of_spelled (spelled_literal s) r.depth)

private theorem text?_literal (s : String) (rest : List Char) :
    JavaScript.text? ((literal s).toList ++ rest) = some (s, rest) := by
  have read := JavaScript.text?_of_spelled (spelled_literal s) rest
  rwa [toList_literal, List.cons_append, List.append_assoc, List.singleton_append]

/-- A literal stands for its text, as a JSON document and in a script, where it ends at its own
closing quote. So the template that the script of a component attaches is the one that was found
in the source. -/
theorem literal_evaluates :
    (∀ text : String, (∀ r, Json.readChars r (literal text).toList = .ok (.str text)) ∧
      ∀ rest, JavaScript.text? ((literal text).toList ++ rest) = some (text, rest)) ∧
    ∀ source mount : String, ∃ behind, (ofSource source).toScript mount =
        declare (ofSource source).script ++ attachment ++ literal (ofSource source).template ++
          behind ∧
      JavaScript.text? (literal (ofSource source).template ++ behind).toList =
        some ((ofSource source).template, behind.toList) := by
  constructor
  · intro text
    exact ⟨fun r => readChars_literal r text, text?_literal text⟩
  · intro source mount
    refine ⟨mounting ++ literal mount ++ ");", ?_, ?_⟩
    · rw [toScript_eq]
      simp only [String.append_assoc]
    · rw [String.toList_append]
      exact text?_literal _ _

example : literal "</p>é" = "\"<\\/p>\\u00e9\"" := by decide

end WebPreview.Component
