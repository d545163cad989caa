import WebPreview.Keyed

/-! # Entries of lists of named values

Where a value is once it was put under a name, and what becomes of the others. A list that has
every name once is told by its entries alone, and putting them one after another gives it back
(`WebPreview.Keyed.ofList_entries`).
-/

namespace WebPreview

namespace Named

variable {α : Type}

/-- The name of an entry is one of the names. -/
theorem mem_names {p : String × α} {xs : List (String × α)} (inside : p ∈ xs) : p.1 ∈ names xs :=
  List.mem_map_of_mem inside

/-- A new name is put behind the others. -/
theorem put_of_not_mem {name : String} {xs : List (String × α)} (fresh : name ∉ names xs)
    (value : α) : put name value xs = xs ++ [(name, value)] := by
  induction xs with
  | nil => rfl
  | cons x rest ih =>
      obtain ⟨n, v⟩ := x
      have different : ¬n = name := fun same => fresh (same ▸ List.mem_cons_self)
      have below : name ∉ names rest := fun member => fresh (List.mem_cons_of_mem _ member)
      simp only [put, different, ↓reduceIte, ih below, List.cons_append]

/-- Putting a value under a name that is there changes the value alone. -/
theorem put_of_mem {name : String} {xs : List (String × α)} (member : name ∈ names xs)
    (nodup : (names xs).Nodup) (value : α) :
    put name value xs = xs.map fun p => (p.1, if p.1 = name then value else p.2) := by
  induction xs with
  | nil => cases member
  | cons x rest ih =>
      obtain ⟨n, old⟩ := x
      obtain ⟨absent, below⟩ := List.nodup_cons.1 nodup
      by_cases same : n = name
      · subst same
        have others : rest.map (fun p => (p.1, if p.1 = n then value else p.2)) = rest := by
          refine (List.map_congr_left fun p inside => ?_).trans (List.map_id rest)
          have listed := mem_names inside
          have different : ¬p.1 = n := fun equal => absent (equal ▸ listed)
          rw [if_neg different, id_eq]
        simp only [put, ↓reduceIte, List.map_cons, others]
      · have inside : name ∈ names rest :=
          (List.mem_cons.1 member).resolve_left fun equal => same equal.symm
        simp only [put, same, ↓reduceIte, List.map_cons, ih inside below]

/-- A value that is found stands in an entry. -/
theorem mem_of_get? {name : String} {value : α} {xs : List (String × α)}
    (here : get? name xs = some value) : (name, value) ∈ xs := by
  induction xs with
  | nil => cases here
  | cons x rest ih =>
      obtain ⟨n, old⟩ := x
      unfold get? at here
      split at here
      · next same => exact List.mem_cons.2 (.inl (Prod.ext same.symm (Option.some.inj here).symm))
      · exact List.mem_cons_of_mem _ (ih here)

/-- With distinct names, the value of an entry is found under its name. -/
theorem get?_of_mem {name : String} {value : α} {xs : List (String × α)}
    (nodup : (names xs).Nodup) (member : (name, value) ∈ xs) : get? name xs = some value := by
  induction xs with
  | nil => cases member
  | cons x rest ih =>
      obtain ⟨n, old⟩ := x
      obtain ⟨absent, below⟩ := List.nodup_cons.1 nodup
      rcases List.mem_cons.1 member with here | inside
      · cases here
        simp only [get?, ↓reduceIte]
      · have listed := mem_names inside
        have different : ¬n = name := fun same => absent (same ▸ listed)
        simp only [get?, different, ↓reduceIte, ih below inside]

/-- An entry after a put is the one that was put, or it was there before. -/
theorem mem_put {p : String × α} {name : String} {value : α} {xs : List (String × α)}
    (inside : p ∈ put name value xs) : p = (name, value) ∨ p ∈ xs := by
  induction xs with
  | nil => exact .inl (List.mem_singleton.1 inside)
  | cons x rest ih =>
      obtain ⟨n, old⟩ := x
      unfold put at inside
      split at inside
      · next same =>
          rcases List.mem_cons.1 inside with here | below
          · exact .inl (same ▸ here)
          · exact .inr (List.mem_cons_of_mem _ below)
      · rcases List.mem_cons.1 inside with here | below
        · exact .inr (List.mem_cons.2 (.inl here))
        · exact (ih below).imp_right (List.mem_cons_of_mem _)

/-- A name is looked up from the front. -/
theorem get?_append_cons (name : String) (front : List (String × α)) (here : String × α)
    (back : List (String × α)) :
    get? name (front ++ here :: back) =
      (get? name front).or (if here.1 = name then some here.2 else get? name back) := by
  induction front with
  | nil => rfl
  | cons x rest ih =>
      obtain ⟨n, old⟩ := x
      by_cases same : n = name
      · simp only [List.cons_append, get?, same, ↓reduceIte, Option.some_or]
      · simp only [List.cons_append, get?, same, ↓reduceIte, ih]

end Named

namespace Keyed

variable {α : Type}

private theorem entries_foldl_put (start : Keyed α) (pairs : List (String × α))
    (nodup : (Named.names (start.entries ++ pairs)).Nodup) :
    (pairs.foldl (fun xs p => xs.put p.1 p.2) start).entries = start.entries ++ pairs := by
  induction pairs generalizing start with
  | nil => exact (List.append_nil _).symm
  | cons pair rest ih =>
      obtain ⟨name, value⟩ := pair
      have fresh : name ∉ Named.names start.entries := by
        intro member
        simp only [Named.names, List.map_append, List.map_cons] at nodup
        exact (List.nodup_append.1 nodup).2.2 name member name List.mem_cons_self rfl
      have placed : (start.put name value).entries = start.entries ++ [(name, value)] :=
        Named.put_of_not_mem fresh value
      rw [List.foldl_cons, ih, placed, List.append_assoc, List.singleton_append]
      rw [placed, List.append_assoc, List.singleton_append]
      exact nodup

/-- Putting the entries of a list one after another gives the list. -/
theorem ofList_entries (xs : Keyed α) : ofList xs.entries = xs :=
  ext (entries_foldl_put empty xs.entries xs.nodup)

/-- What holds of the pairs holds of the entries that putting them gives. -/
theorem forall_mem_ofList {property : String × α → Prop}
    {pairs : List (String × α)} (each : ∀ p ∈ pairs, property p) :
    ∀ p ∈ (ofList pairs).entries, property p := by
  have from_start (start : Keyed α) (before : ∀ p ∈ start.entries, property p) :
      ∀ p ∈ (pairs.foldl (fun xs p => xs.put p.1 p.2) start).entries, property p := by
    induction pairs generalizing start with
    | nil => exact before
    | cons pair rest ih =>
        rw [List.forall_mem_cons] at each
        apply ih each.2
        intro p inside
        rcases Named.mem_put inside with rfl | kept
        · exact each.1
        · exact before p kept
  exact from_start empty nofun

end Keyed

end WebPreview
