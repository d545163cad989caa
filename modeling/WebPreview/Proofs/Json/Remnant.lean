import WebPreview.Proofs.Json.Literal
import WebPreview.Proofs.Json.Nesting

/-! # What is left of a document

A document that is cut inside one of its literals leaves a text that is no object
(`WebPreview.Json.readChars_remnant`), as long as the quote that closed the literal does not
open a name where it stands.
-/

namespace WebPreview.Json

variable {r : Rules} {cs after rest : List Char} {fields : List (String × Json)}

/-- An object begins with its brace, and then it is closed or has fields. -/
theorem readWith_eq_obj {item : (inArray : Bool) → ItemReader}
    (read : readWith r item cs = .ok (.obj fields, rest)) :
    ∃ inner, cs = '\x7b' :: inner ∧ (skipGap inner = '\x7d' :: rest ∨
      ∃ item bound found, readFields r item bound (skipGap inner) = .ok found) := by
  unfold readWith at read
  split at read
  · obtain ⟨_, -, text⟩ := Except.bind_eq_ok_iff.1 read
    cases text
  · split at read
    · cases read
    · obtain ⟨_, -, items⟩ := Except.bind_eq_ok_iff.1 read
      cases items
  · next inner =>
      refine ⟨inner, rfl, ?_⟩
      split at read
      · next behind closed =>
          cases read
          exact .inl closed
      · obtain ⟨found, named, -⟩ := Except.bind_eq_ok_iff.1 read
        exact .inr ⟨_, _, found, named⟩
  · exact absurd rfl ((flat_of_readAtom read).1.2 fields)

private theorem readValue_eq_obj {depth : Nat}
    (read : readValue r depth cs = .ok (.obj fields, rest)) :
    ∃ inner, cs = '\x7b' :: inner ∧ (skipGap inner = '\x7d' :: rest ∨
      ∃ item bound found, readFields r item bound (skipGap inner) = .ok found) := by
  cases depth with
  | zero => exact readWith_eq_obj read
  | succ depth => exact readWith_eq_obj read

/-- Behind the gap in front of the rest of a literal stands its closing quote, an escape, or a
character that stands for itself. -/
theorem skipGap_inside (text after : List Char) :
    skipGap (inside text ++ '"' :: after) = '"' :: after ∨
      (∃ more, skipGap (inside text ++ '"' :: after) = '\\' :: more) ∨
      ∃ c more, c ≠ '"' ∧
        skipGap (inside text ++ '"' :: after) = c :: (inside more ++ '"' :: after) := by
  induction text with
  | nil => exact .inl rfl
  | cons c text ih =>
      rw [inside, List.flatMap_cons, List.append_assoc, ← inside]
      rcases (spells_lightEscape c).plain_or_escape with ⟨plain, -, quote, -⟩ | ⟨⟨more, escaped⟩, -⟩
      · rw [plain, List.singleton_append]
        by_cases gap : isGap c = true
        · have skipped : skipGap (c :: (inside text ++ '"' :: after)) =
              skipGap (inside text ++ '"' :: after) := List.dropWhile_cons_of_pos gap
          rwa [skipped]
        · exact .inr (.inr ⟨c, text, quote, skipGap_cons (Bool.eq_false_iff.2 gap) _⟩)
      · exact .inr (.inl ⟨_, by rw [escaped]; exact skipGap_cons rfl _⟩)

private theorem skipGap_inside_ne_nil (text : List Char) :
    skipGap (inside text ++ '"' :: after) ≠ [] := by
  rcases skipGap_inside text after with quote | ⟨more, escape⟩ | ⟨c, more, -, plain⟩
  · simp [quote]
  · simp [escape]
  · simp [plain]

private theorem readFields_zero {item : ItemReader} {found : List (String × Json) × List Char} :
    readFields r item 0 cs ≠ .ok found := by
  intro read
  rw [readFields] at read
  cases read

private theorem readFields_of_ne_quote {item : ItemReader} {bound : Nat} {c : Char}
    {found : List (String × Json) × List Char} (other : c ≠ '"') :
    readFields r item bound (c :: cs) ≠ .ok found := by
  cases bound with
  | zero => exact readFields_zero
  | succ bound =>
      intro read
      rw [readFields] at read
      · cases read
      · intro cs same
        exact other (List.cons.inj same).1

/-- What is left of a document that is cut inside a literal is no object, unless the closing quote
opens the name of a field. -/
theorem readChars_remnant
    (unread : ∀ item bound found, readFields r item bound ('"' :: after) ≠ .ok found)
    (text : List Char) : readChars r (inside text ++ '"' :: after) ≠ .ok (.obj fields) := by
  intro read
  obtain ⟨⟨v, rest⟩, value, ended⟩ := Except.bind_eq_ok_iff.1 read
  obtain ⟨rfl, behind⟩ : v = .obj fields ∧ skipGap rest = [] := by
    dsimp only at ended
    split at ended
    · next nothing =>
        cases ended
        exact ⟨rfl, nothing⟩
    · cases ended
  obtain ⟨inner, opened, continued⟩ := readValue_eq_obj value
  obtain ⟨more, rfl⟩ : ∃ more, inner = inside more ++ '"' :: after := by
    rcases skipGap_inside text after with quote | ⟨_, escape⟩ | ⟨c, more, -, plain⟩
    · cases quote.symm.trans opened
    · cases escape.symm.trans opened
    · exact ⟨more, (List.cons.inj (plain.symm.trans opened)).2.symm⟩
  -- What follows the brace is no name, and if it is the other brace, something follows that.
  rcases skipGap_inside more after with quote | ⟨_, escape⟩ | ⟨c, last, other, plain⟩
  · rw [quote] at continued
    rcases continued with closed | ⟨item, bound, found, named⟩
    · cases closed
    · exact unread item bound found named
  · rw [escape] at continued
    rcases continued with closed | ⟨item, bound, found, named⟩
    · cases closed
    · exact readFields_of_ne_quote (by decide) named
  · rw [plain] at continued
    rcases continued with closed | ⟨item, bound, found, named⟩
    · cases closed
      exact skipGap_inside_ne_nil last behind
    · exact readFields_of_ne_quote other named

variable {item : ItemReader} {bound : Nat} {found : List (String × Json) × List Char}

private theorem readString_braces (start : List Char) (depth : Nat) :
    readString start none (List.replicate depth '\x7d') = .error (.malformed start) := by
  induction depth with
  | zero => rfl
  | succ depth ih =>
      rw [List.replicate_succ, readString]
      · rw [ih]
        rfl
      all_goals simp

/-- Only braces follow the quote. -/
theorem readFields_braces (depth : Nat) :
    readFields r item bound ('"' :: List.replicate depth '\x7d') ≠ .ok found := by
  cases bound with
  | zero => exact readFields_zero
  | succ bound =>
      intro read
      rw [readFields, Rules.readText, readString_braces] at read
      cases read

/-- The quote is that of the field before a name. -/
theorem readFields_comma {c : Char} (solid : isGap c = false) (other : c ≠ ':') (cs : List Char) :
    readFields r item bound ('"' :: ',' :: '"' :: c :: cs) ≠ .ok found := by
  cases bound with
  | zero => exact readFields_zero
  | succ bound =>
      have name : r.readText ('"' :: ',' :: '"' :: c :: cs) (',' :: '"' :: c :: cs) =
          .ok (",", c :: cs) := readText_inside "," (c :: cs)
      intro read
      rw [readFields] at read
      obtain ⟨⟨_, rest⟩, same, named⟩ := Except.bind_eq_ok_iff.1 read
      cases name.symm.trans same
      dsimp only at named
      rw [skipGap_cons solid] at named
      split at named
      · next colon => exact other (List.cons.inj colon).1
      · cases named

end WebPreview.Json
