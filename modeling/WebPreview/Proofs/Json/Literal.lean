import WebPreview.Proofs.Json.Spelling

/-! # Literals that escape no more than they have to

A text in which the quote, the backslash and the controls are escaped, and nothing else, is
read back as it was (`WebPreview.Json.readText_inside`). So are objects of such literals
(`WebPreview.Json.Reads.object`).
-/

namespace WebPreview.Json

/-- How one character stands in a literal. -/
def lightEscape (c : Char) : List Char :=
  if c = '"' ∨ c = '\\' ∨ c.toNat < 0x20 then escapeChar c else [c]

/-- The text between the quotes of a literal. -/
def inside (cs : List Char) : List Char := cs.flatMap lightEscape

/-- The literal of a text. -/
def literal (s : String) : List Char := '"' :: (inside s.toList ++ ['"'])

/-- A light escape spells its character. -/
theorem spells_lightEscape (c : Char) : Spells (lightEscape c) c := by
  by_cases escaped : c = '"' ∨ c = '\\' ∨ c.toNat < 0x20
  · rw [lightEscape, if_pos escaped]
    exact spells_escapeChar c
  · rw [lightEscape, if_neg escaped]
    rw [not_or, not_or] at escaped
    exact .plain escaped.2.2 escaped.1 escaped.2.1

variable {start : List Char} {r : Rules}

/-- A light literal is read up to its closing quote. -/
theorem readText_inside (s : String) (after : List Char) :
    r.readText start (inside s.toList ++ '"' :: after) = .ok (s, after) :=
  readText_spelled (spelled_flatMap spells_lightEscape s.toList) after

/-- Wherever the text stands, the value is read off it, and nothing more. -/
structure Reads (item : ItemReader) (text : List Char) (v : Json) : Prop where
  read : ∀ rest, item (text ++ rest) = .ok (v, rest)
  tight : ∀ rest, skipGap (text ++ rest) = text ++ rest

/-- A quoted spelling reads as the text that it spells. -/
theorem reads_of_spelled {text : List Char} {s : String} (spelled : Spelled text s.toList)
    (depth : Nat) : Reads (readValue r depth) ('"' :: (text ++ ['"'])) (.str s) where
  read rest := by
    have whole : '"' :: (text ++ ['"']) ++ rest = '"' :: (text ++ '"' :: rest) := by
      rw [List.cons_append, List.append_assoc, List.singleton_append]
    have read : r.readText ('"' :: (text ++ '"' :: rest)) (text ++ '"' :: rest) = .ok (s, rest) :=
      readText_spelled spelled rest
    rw [whole]
    cases depth with
    | zero => simp only [readValue, readWith, read]; rfl
    | succ depth => simp only [readValue, readWith, read]; rfl
  tight rest := rfl

/-- A light literal reads as its text. -/
theorem reads_literal (depth : Nat) (s : String) :
    Reads (readValue r depth) (literal s) (.str s) :=
  reads_of_spelled (spelled_flatMap spells_lightEscape s.toList) depth

/-- The fields of an object from the first name to the closing brace. -/
def fieldsText : List (String × List Char) → List Char
  | [] => ['\x7d']
  | [(name, value)] => literal name ++ ':' :: (value ++ ['\x7d'])
  | (name, value) :: fields => literal name ++ ':' :: (value ++ ',' :: fieldsText fields)

/-- An object of fields whose values are written already. -/
def objectText (fields : List (String × List Char)) : List Char := '\x7b' :: fieldsText fields

/-- A field of an object: its name, how its value is written, and the value. -/
structure Written where
  name : String
  text : List Char
  value : Json

/-- The value of the field is read off how it is written. -/
def Written.ReadBy (f : Written) (item : ItemReader) : Prop := Reads item f.text f.value

/-- How the fields are written. -/
def fieldTexts (fields : List Written) : List (String × List Char) :=
  fields.map fun f => (f.name, f.text)

/-- What is read off the fields. -/
def fieldValues (fields : List Written) : List (String × Json) :=
  fields.map fun f => (f.name, f.value)

/-- There is no gap in front of a character that is none. -/
theorem skipGap_cons {c : Char} (solid : isGap c = false) (cs : List Char) :
    skipGap (c :: cs) = c :: cs := by
  rw [skipGap, List.dropWhile_cons, solid]
  rfl

variable {item : ItemReader} {bound : Nat} {text rest : List Char} {v : Json}

private theorem readFields_last (name : String) (value : Reads item text v) :
    readFields r item (bound + 1) (literal name ++ ':' :: (text ++ '\x7d' :: rest)) =
      .ok ([(name, v)], rest) := by
  have colon := skipGap_cons (c := ':') rfl
  have brace := skipGap_cons (c := '\x7d') rfl
  simp only [literal, List.cons_append, List.append_assoc, List.nil_append, readFields,
    readText_inside, bind, Except.bind, colon, value.tight, value.read, brace]
  rfl

private theorem readFields_more {more : List Char} {fields : List (String × Json)} (name : String)
    (value : Reads item text v) (solid : skipGap more = more)
    (others : readFields r item bound more = .ok (fields, rest)) :
    readFields r item (bound + 1) (literal name ++ ':' :: (text ++ ',' :: more)) =
      .ok ((name, v) :: fields, rest) := by
  have colon := skipGap_cons (c := ':') rfl
  have comma := skipGap_cons (c := ',') rfl
  simp only [literal, List.cons_append, List.append_assoc, List.nil_append, readFields,
    readText_inside, bind, Except.bind, colon, value.tight, value.read, comma, solid, others]
  rfl

private theorem skipGap_fieldsText (fields : List (String × List Char)) (rest : List Char) :
    skipGap (fieldsText fields ++ rest) = fieldsText fields ++ rest := by
  rcases fields with _ | ⟨⟨name, value⟩, _ | ⟨g, fields⟩⟩ <;> rfl

private theorem length_le_length_fieldsText (fields : List (String × List Char)) :
    fields.length ≤ (fieldsText fields).length := by
  induction fields with
  | nil => exact Nat.zero_le _
  | cons f fields ih =>
      cases fields with
      | nil =>
          simp only [fieldsText, List.length_append, List.length_cons, List.length_nil]
          omega
      | cons g fields =>
          simp only [fieldsText, List.length_append, List.length_cons] at ih ⊢
          omega

private theorem readFields_fieldsText {fields : List Written}
    (each : ∀ f ∈ fields, f.ReadBy item) (something : fields ≠ [])
    (enough : fields.length ≤ bound) (rest : List Char) :
    readFields r item bound (fieldsText (fieldTexts fields) ++ rest) =
      .ok (fieldValues fields, rest) := by
  induction fields generalizing bound with
  | nil => exact absurd rfl something
  | cons f fields ih =>
      obtain ⟨name, text, v⟩ := f
      rw [List.length_cons] at enough
      obtain ⟨bound, rfl⟩ : ∃ n, bound = n + 1 := ⟨bound - 1, by omega⟩
      rw [List.forall_mem_cons] at each
      cases fields with
      | nil =>
          simpa [fieldTexts, fieldValues, fieldsText] using readFields_last name each.1
      | cons g fields =>
          have enough : (g :: fields).length ≤ bound := by omega
          have others := ih each.2 (List.cons_ne_nil _ _) enough
          have more := readFields_more name each.1 (skipGap_fieldsText _ _) others
          simpa [fieldTexts, fieldValues, fieldsText] using more

private theorem readWith_object {nested : (inArray : Bool) → ItemReader}
    {fields : List (String × Json)}
    (read : readFields r (nested false) ('"' :: cs).length.succ ('"' :: cs) = .ok (fields, rest)) :
    readWith r nested ('\x7b' :: '"' :: cs) = .ok (.obj (Named.ofPairs fields), rest) := by
  have quote := skipGap_cons (c := '"') rfl
  simp only [readWith, quote]
  split
  · next closed => cases closed
  · rw [read]
    rfl

/-- An object is read back from its fields, one level deeper than their values. -/
theorem Reads.object {fields : List Written} {depth : Nat}
    (each : ∀ f ∈ fields, f.ReadBy (readValue r depth)) (something : fields ≠ []) :
    Reads (readValue r (depth + 1)) (objectText (fieldTexts fields))
      (.obj (Named.ofPairs (fieldValues fields))) where
  read rest := by
    have enough := length_le_length_fieldsText (fieldTexts fields)
    rw [fieldTexts, List.length_map, ← fieldTexts] at enough
    have quoted : ∃ cs, fieldsText (fieldTexts fields) ++ rest = '"' :: cs := by
      rcases fields with _ | ⟨f, _ | ⟨g, fields⟩⟩
      · exact absurd rfl something
      · exact ⟨_, rfl⟩
      · exact ⟨_, rfl⟩
    obtain ⟨cs, quoted⟩ := quoted
    have long : fields.length ≤ ('"' :: cs).length.succ := by
      rw [← quoted, List.length_append]
      omega
    have read := readFields_fieldsText (r := r) each something long rest
    rw [quoted] at read
    rw [objectText, List.cons_append, quoted, readValue]
    exact readWith_object read
  tight rest := rfl

/-- A document that is written is read back. -/
theorem readChars_of_reads {text : List Char} {v : Json}
    (reads : Reads (readValue r r.depth) text v) : readChars r text = .ok v := by
  have read := reads.read []
  have tight := reads.tight []
  rw [List.append_nil] at read tight
  simp only [readChars, tight, read, bind, Except.bind]
  rfl

/-- A text that reads as a value under the strict rules is that value. -/
theorem ofStrict?_of_reads {text : List Char} {v : Json}
    (reads : Reads (readValue tightRules tightRules.depth) text v) :
    ofStrict? (String.ofList text) = some v := by
  rw [ofStrict?, String.toList_ofList, readChars_of_reads reads]

end WebPreview.Json
