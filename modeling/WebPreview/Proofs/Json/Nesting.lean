import WebPreview.Json.Shown
import WebPreview.Proofs.Except
import WebPreview.Proofs.Keyed.Entries

/-! # How deep a value is nested

A value can be shown exactly if it is nested no deeper than there is room for calls and no whole
number in it is too long (`WebPreview.Json.exists_inspect_iff`). Whatever is read from a document
keeps to both: it is nested no deeper than the rules of reading allow, and its numbers are short
(`WebPreview.Json.shows_of_readChars`).
-/

namespace WebPreview

/-- What holds of all pairs holds of what putting them one after another gives. -/
theorem Named.forall_mem_ofPairs {α : Type} {property : String × α → Prop}
    {pairs : List (String × α)} (each : ∀ p ∈ pairs, property p) :
    ∀ p ∈ ofPairs pairs, property p := by
  have from_start (start : List (String × α)) (before : ∀ p ∈ start, property p) :
      ∀ p ∈ pairs.foldl (fun xs p => put p.1 p.2 xs) start, property p := by
    induction pairs generalizing start with
    | nil => exact before
    | cons pair rest ih =>
        rw [List.forall_mem_cons] at each
        refine ih each.2 _ fun p inside => ?_
        exact (mem_put inside).elim (fun here => here ▸ each.1) (before p)
  exact from_start [] (by simp)

namespace Json

/-- The value and the containers in it take no more calls inside one another than there is room
for, and every whole number in it has no more digits than a number may have. -/
inductive Shows : Nat → Json → Prop where
  | null {room : Nat} : Shows (room + 1) .null
  | bool {room : Nat} (b : Bool) : Shows (room + 1) (.bool b)
  | int {room : Nat} {n : Int} (short : n.natAbs < longNumber) : Shows (room + 1) (.int n)
  | float {room : Nat} (x : Float) : Shows (room + 1) (.float x)
  | str {room : Nat} (s : String) : Shows (room + 1) (.str s)
  | arr {room : Nat} {items : List Json} (each : ∀ v ∈ items, Shows room v) :
    Shows (room + 1) (.arr items)
  | obj {room : Nat} {fields : List (String × Json)} (each : ∀ p ∈ fields, Shows room p.2) :
    Shows (room + 1) (.obj fields)

private theorem Shows.mono {room room' : Nat} {v : Json} (shows : Shows room v)
    (more : room ≤ room') :
    Shows room' v := by
  induction shows generalizing room' with
  | null | bool | int | float | str =>
      obtain ⟨room', rfl⟩ := Nat.exists_eq_add_one_of_ne_zero (Nat.ne_zero_of_lt more)
      constructor <;> assumption
  | arr each ih =>
      obtain ⟨room', rfl⟩ := Nat.exists_eq_add_one_of_ne_zero (Nat.ne_zero_of_lt more)
      exact .arr fun v inside => ih v inside (Nat.le_of_succ_le_succ more)
  | obj each ih =>
      obtain ⟨room', rfl⟩ := Nat.exists_eq_add_one_of_ne_zero (Nat.ne_zero_of_lt more)
      exact .obj fun p inside => ih p inside (Nat.le_of_succ_le_succ more)

private theorem inspect_zero (v : Json) : inspect 0 v = .error shownTooDeep := by cases v <;> rfl

private theorem exists_inspectItems_iff {room : Nat} {items : List Json} :
    (∃ texts, inspectItems room items = .ok texts) ↔
      ∀ v ∈ items, ∃ s, inspect room v = .ok s := by
  induction items with
  | nil => simp [inspectItems]
  | cons v vs ih =>
      rw [List.forall_mem_cons, ← ih]
      simp only [inspectItems, Except.bind_eq_ok_iff]
      constructor
      · rintro ⟨_, s, here, texts, others, -⟩
        exact ⟨⟨s, here⟩, texts, others⟩
      · rintro ⟨⟨s, here⟩, texts, others⟩
        exact ⟨_, s, here, texts, others, rfl⟩

private theorem exists_inspectFields_iff {room : Nat} {fields : List (String × Json)} :
    (∃ texts, inspectFields room fields = .ok texts) ↔
      ∀ p ∈ fields, ∃ s, inspect room p.2 = .ok s := by
  induction fields with
  | nil => simp [inspectFields]
  | cons p rest ih =>
      obtain ⟨name, v⟩ := p
      rw [List.forall_mem_cons, ← ih]
      simp only [inspectFields, Except.bind_eq_ok_iff]
      constructor
      · rintro ⟨_, _, -, s, here, texts, others, -⟩
        exact ⟨⟨s, here⟩, texts, others⟩
      · rintro ⟨⟨s, here⟩, texts, others⟩
        cases room with
        | zero => cases here.symm.trans (inspect_zero v)
        | succ room => exact ⟨_, _, rfl, s, here, texts, others, rfl⟩

/-- **What can be shown**: a value that is nested no deeper than there is room for calls, with no
number in it that is too long. -/
theorem exists_inspect_iff {room : Nat} {v : Json} :
    (∃ s, inspect room v = .ok s) ↔ Shows room v := by
  induction room generalizing v with
  | zero =>
      rw [inspect_zero]
      exact iff_of_false (fun ⟨_, never⟩ => nomatch never) nofun
  | succ room ih =>
      cases v with
      | null => exact iff_of_true ⟨_, rfl⟩ .null
      | bool b => exact iff_of_true ⟨_, rfl⟩ (.bool b)
      | float x => exact iff_of_true ⟨_, rfl⟩ (.float x)
      | str s => exact iff_of_true ⟨_, rfl⟩ (.str s)
      | int n =>
          rw [inspect]
          by_cases short : n.natAbs < longNumber
          · rw [if_neg (Nat.not_le.2 short)]
            exact iff_of_true ⟨_, rfl⟩ (.int short)
          · rw [if_pos (Nat.not_lt.1 short)]
            refine iff_of_false (fun ⟨_, never⟩ => nomatch never) fun shows => ?_
            cases shows with
            | int fits => exact short fits
      | arr items =>
          rw [inspect]
          simp only [Except.bind_eq_ok_iff]
          constructor
          · rintro ⟨_, texts, shown, -⟩
            exact .arr fun v inside => ih.1 (exists_inspectItems_iff.1 ⟨texts, shown⟩ v inside)
          · intro shows
            cases shows with
            | arr each =>
                obtain ⟨texts, shown⟩ := exists_inspectItems_iff.2 fun v inside =>
                  ih.2 (each v inside)
                exact ⟨_, texts, shown, rfl⟩
      | obj fields =>
          rw [inspect]
          simp only [Except.bind_eq_ok_iff]
          constructor
          · rintro ⟨_, texts, shown, -⟩
            exact .obj fun p inside => ih.1 (exists_inspectFields_iff.1 ⟨texts, shown⟩ p inside)
          · intro shows
            cases shows with
            | obj each =>
                obtain ⟨texts, shown⟩ := exists_inspectFields_iff.2 fun p inside =>
                  ih.2 (each p inside)
                exact ⟨_, texts, shown, rfl⟩

/-- A value that cannot be shown is nested too deep, or a number in it is too long. -/
theorem inspect_error {room : Nat} {v : Json} {fault : Raised}
    (failed : inspect room v = .error fault) : fault = shownTooDeep ∨ fault = shownTooLong := by
  induction room generalizing v with
  | zero => exact .inl (Except.error.inj (failed.symm.trans (inspect_zero v)))
  | succ room ih =>
      have items (items : List Json) (failed : inspectItems room items = .error fault) :
          fault = shownTooDeep ∨ fault = shownTooLong := by
        induction items with
        | nil => cases failed
        | cons v vs rest =>
            simp only [inspectItems, Except.bind_eq_error_iff] at failed
            rcases failed with here | ⟨_, -, others | ⟨_, -, never⟩⟩
            · exact ih here
            · exact rest others
            · cases never
      have fields (fields : List (String × Json))
          (failed : inspectFields room fields = .error fault) :
          fault = shownTooDeep ∨ fault = shownTooLong := by
        induction fields with
        | nil => cases failed
        | cons p ps rest =>
            simp only [inspectFields, Except.bind_eq_error_iff] at failed
            rcases failed with name | ⟨_, -, here | ⟨_, -, others | ⟨_, -, never⟩⟩⟩
            · cases room with
              | zero => exact .inl (Except.error.inj name).symm
              | succ room => cases name
            · exact ih here
            · exact rest others
            · cases never
      cases v with
      | null | bool | float | str => cases failed
      | int n =>
          rw [inspect] at failed
          split at failed
          · exact .inr (Except.error.inj failed).symm
          · cases failed
      | arr vs =>
          simp only [inspect, Except.bind_eq_error_iff] at failed
          rcases failed with inner | ⟨_, -, never⟩
          · exact items vs inner
          · cases never
      | obj ps =>
          simp only [inspect, Except.bind_eq_error_iff] at failed
          rcases failed with inner | ⟨_, -, never⟩
          · exact fields ps inner
          · cases never

/-- A value with a text of its own is that text. -/
theorem eq_str_of_isSome {v : Json} (written : v.str?.isSome) : ∃ s, v = .str s := by
  cases v with
  | str s => exact ⟨s, rfl⟩
  | _ => cases written

/-- A value with no text of its own is shown as it is inspected. -/
theorem text_of_str?_eq_none (room : Nat) {v : Json} (other : v.str? = none) :
    v.text room = inspect room v := by
  unfold text
  split
  · cases other
  · rfl

/-- A value that stands for no text cannot be shown. -/
theorem text_error {room : Nat} {v : Json} {fault : Raised} (failed : v.text room = .error fault) :
    fault = shownTooDeep ∨ fault = shownTooLong := by
  by_cases written : v.str?.isSome
  · obtain ⟨s, rfl⟩ := eq_str_of_isSome written
    cases failed
  · rw [text_of_str?_eq_none room (Option.not_isSome_iff_eq_none.1 written)] at failed
    exact inspect_error failed

section Reading

variable {r : Rules} {cs rest : List Char} {v : Json} {property : Json → Prop}

/-- What is found, if anything, holds no other values. -/
def Flat (found : Option (Json × List Char)) : Prop :=
  ∀ v rest, found = some (v, rest) → (∀ items, v ≠ .arr items) ∧ ∀ fields, v ≠ .obj fields

private theorem Flat.orElse {first second : Option (Json × List Char)} (one : Flat first)
    (other : Flat second) : Flat (first <|> second) := by
  intro v rest found
  cases first with
  | none => exact other v rest found
  | some pair => exact one v rest found

private theorem flat_map {α : Type} {value : α → Json} {behind : α → List Char} {found : Option α}
    (flat : ∀ a, (∀ items, value a ≠ .arr items) ∧ ∀ fields, value a ≠ .obj fields) :
    Flat (found.map fun a => (value a, behind a)) := by
  intro v rest same
  obtain ⟨a, -, same⟩ := Option.map_eq_some_iff.1 same
  cases same
  exact flat a

/-- A number or a word holds no other values, and it is no whole number that is too long. -/
theorem flat_of_readAtom (read : readAtom cs = .ok (v, rest)) :
    ((∀ items, v ≠ .arr items) ∧ ∀ fields, v ≠ .obj fields) ∧
      ∀ n, v = .int n → n.natAbs < longNumber := by
  unfold readAtom at read
  extract_lets word number atom at read
  have words (w : String) (v : Json)
      (flat : (∀ items, v ≠ .arr items) ∧ ∀ fields, v ≠ .obj fields) : Flat (word w v) :=
    flat_map fun _ => flat
  have numbers : Flat number := by
    intro v rest same
    unfold number at same
    split at same
    all_goals
      obtain ⟨⟨n | x, behind⟩, -, same⟩ := Option.map_eq_some_iff.1 same
      all_goals
        cases same
        exact ⟨nofun, nofun⟩
  have flat : Flat atom :=
    (words "null" .null ⟨nofun, nofun⟩).orElse <| (words "true" (.bool _) ⟨nofun, nofun⟩).orElse <|
      (words "false" (.bool _) ⟨nofun, nofun⟩).orElse <|
      (words "NaN" (.float _) ⟨nofun, nofun⟩).orElse <|
      (words "Infinity" (.float _) ⟨nofun, nofun⟩).orElse <|
      (words "-Infinity" (.float _) ⟨nofun, nofun⟩).orElse numbers
  -- Only what the alternatives have in common is needed from here on.
  clear_value atom
  split at read
  · split at read
    · cases read
    · next short =>
      cases read
      refine ⟨flat _ _ rfl, fun n same => ?_⟩
      cases same
      exact Nat.not_le.1 short
  · next found other =>
    cases read
    exact ⟨flat v rest rfl, fun n same => (other n rest (Prod.ext same rfl)).elim⟩
  · cases read

private theorem forall_of_readItems {item : ItemReader} {bound : Nat} {vs : List Json}
    (each : ∀ cs v rest, item cs = .ok (v, rest) → property v)
    (read : readItems item bound cs = .ok (vs, rest)) : ∀ v ∈ vs, property v := by
  induction bound generalizing cs vs rest with
  | zero => cases read
  | succ bound ih =>
      unfold readItems at read
      obtain ⟨⟨v, behind⟩, here, read⟩ := Except.bind_eq_ok_iff.1 read
      dsimp only at read
      split at read
      · cases read
        exact List.forall_mem_singleton.2 (each _ _ _ here)
      · obtain ⟨⟨others, behind'⟩, more, read⟩ := Except.bind_eq_ok_iff.1 read
        cases read
        exact List.forall_mem_cons.2 ⟨each _ _ _ here, ih more⟩
      · cases read

private theorem forall_of_readFields {item : ItemReader} {bound : Nat}
    {fields : List (String × Json)} (each : ∀ cs v rest, item cs = .ok (v, rest) → property v)
    (read : readFields r item bound cs = .ok (fields, rest)) : ∀ p ∈ fields, property p.2 := by
  induction bound generalizing cs fields rest with
  | zero => cases read
  | succ bound ih =>
      unfold readFields at read
      split at read
      · next same => cases same
      · next same =>
        cases same
        obtain ⟨⟨name, behind⟩, -, read⟩ := Except.bind_eq_ok_iff.1 read
        dsimp only at read
        split at read
        · obtain ⟨⟨v, behind⟩, here, read⟩ := Except.bind_eq_ok_iff.1 read
          dsimp only at read
          split at read
          · cases read
            exact List.forall_mem_singleton.2 (each _ _ _ here)
          · obtain ⟨⟨others, behind'⟩, more, read⟩ := Except.bind_eq_ok_iff.1 read
            cases read
            exact List.forall_mem_cons.2 ⟨each _ _ _ here, ih more⟩
          · cases read
        · cases read
      · cases read

/-- A value is nested one deeper than the values that may be read in it. -/
theorem shows_of_readWith {item : (inArray : Bool) → ItemReader} {room : Nat}
    (each : ∀ inArray cs v rest, item inArray cs = .ok (v, rest) → Shows room v)
    (read : readWith r item cs = .ok (v, rest)) : Shows (room + 1) v := by
  unfold readWith at read
  split at read
  · obtain ⟨⟨s, behind⟩, -, read⟩ := Except.bind_eq_ok_iff.1 read
    cases read
    exact .str s
  · split at read
    · cases read
      exact .arr (by simp)
    · obtain ⟨⟨vs, behind⟩, items, read⟩ := Except.bind_eq_ok_iff.1 read
      cases read
      exact .arr (forall_of_readItems (each true) items)
  · split at read
    · cases read
      exact .obj (by simp)
    · obtain ⟨⟨ps, behind⟩, fields, read⟩ := Except.bind_eq_ok_iff.1 read
      cases read
      exact .obj (Named.forall_mem_ofPairs (forall_of_readFields (each false) fields))
  · obtain ⟨⟨noItems, noFields⟩, short⟩ := flat_of_readAtom read
    cases v with
    | null => exact .null
    | bool b => exact .bool b
    | float x => exact .float x
    | str s => exact .str s
    | int n => exact .int (short n rfl)
    | arr items => exact absurd rfl (noItems items)
    | obj fields => exact absurd rfl (noFields fields)

private theorem shows_of_readValue {depth : Nat} (read : readValue r depth cs = .ok (v, rest)) :
    Shows (depth + 1) v := by
  induction depth generalizing cs v rest with
  | zero =>
      refine shows_of_readWith ?_ read
      intro inArray cs v rest never
      cases never
  | succ depth ih => exact shows_of_readWith (fun _ _ _ _ inner => ih inner) read

/-- What is read from a document can be shown, if there is room for as many calls as containers may
stand in one another, and one more. -/
theorem shows_of_readChars (read : readChars r cs = .ok v) {room : Nat} (enough : r.depth < room) :
    Shows room v := by
  obtain ⟨⟨found, rest⟩, value, read⟩ := Except.bind_eq_ok_iff.1 read
  dsimp only at read
  split at read
  · cases read
    exact (shows_of_readValue value).mono enough
  · cases read

end Reading

end Json

end WebPreview
