/-! # Lists of named values

Names and values in the order in which the names first came. Putting a value under a name that is
there already changes the value and keeps its place. A `Keyed` list has every name once.
-/

namespace WebPreview

namespace Named

variable {α β : Type}

/-- The names, in order. -/
def names (xs : List (String × α)) : List String := xs.map Prod.fst

/-- The value under a name. -/
def get? (name : String) : List (String × α) → Option α
  | [] => none
  | (n, v) :: rest => if n = name then some v else get? name rest

/-- Puts a value under a name: in its place if the name is there, and at the end if not. -/
def put (name : String) (value : α) : List (String × α) → List (String × α)
  | [] => [(name, value)]
  | (n, v) :: rest => if n = name then (n, value) :: rest else (n, v) :: put name value rest

/-- The list that putting the pairs one after another gives. -/
def ofPairs (pairs : List (String × α)) : List (String × α) :=
  pairs.foldl (fun xs p => put p.1 p.2 xs) []

private theorem names_put (name : String) (value : α) (xs : List (String × α)) :
    names (put name value xs) = if name ∈ names xs then names xs else names xs ++ [name] := by
  induction xs with
  | nil => simp [names, put]
  | cons x rest ih =>
    obtain ⟨n, v⟩ := x
    by_cases h : n = name
    · simp [put, names, h]
    · have ih' := ih
      simp only [names] at ih'
      simp only [put, h, ↓reduceIte, names, List.map_cons, ih', List.mem_cons]
      have h' : ¬name = n := fun same => h same.symm
      by_cases m : name ∈ rest.map Prod.fst <;> simp [m, h']

/-- A name that was put has the value that was put. -/
theorem get?_put_self (name : String) (value : α) (xs : List (String × α)) :
    get? name (put name value xs) = some value := by
  induction xs with
  | nil => simp [put, get?]
  | cons x rest ih =>
    obtain ⟨n, v⟩ := x
    by_cases h : n = name <;> simp [put, get?, h, ih]

/-- Putting one name leaves the value of every other name. -/
theorem get?_put_of_ne {name other : String} (h : other ≠ name) (value : α)
    (xs : List (String × α)) : get? other (put name value xs) = get? other xs := by
  induction xs with
  | nil => simp [put, get?, h.symm]
  | cons x rest ih =>
    obtain ⟨n, v⟩ := x
    by_cases same : n = name
    · subst same; simp [put, get?, h.symm]
    · by_cases here : n = other
      · subst here; simp [put, get?, same]
      · simp [put, get?, same, here, ih]

private theorem get?_isSome_iff {name : String} {xs : List (String × α)} :
    (get? name xs).isSome = true ↔ name ∈ names xs := by
  induction xs with
  | nil => simp [get?, names]
  | cons x rest ih =>
    obtain ⟨n, v⟩ := x
    by_cases h : n = name
    · simp [get?, names, h]
    · have h' : ¬name = n := fun same => h same.symm
      simp only [names] at ih
      simp only [get?, h, ↓reduceIte, ih, names, List.map_cons, List.mem_cons, h', false_or]

end Named

/-- Named values in order, every name once. -/
structure Keyed (α : Type) where
  entries : List (String × α)
  nodup : (Named.names entries).Nodup

namespace Keyed

variable {α β : Type}

instance [DecidableEq α] : DecidableEq (Keyed α) := fun a b =>
  if h : a.entries = b.entries then
    .isTrue (by cases a; cases b; cases h; rfl)
  else .isFalse (fun same => h (congrArg Keyed.entries same))

/-- Two dictionaries with the same entries in the same order are the same. -/
theorem ext {a b : Keyed α} (h : a.entries = b.entries) : a = b := by
  cases a; cases b; cases h; rfl

/-- No values. -/
def empty : Keyed α := ⟨[], by simp [Named.names]⟩

instance : Inhabited (Keyed α) := ⟨empty⟩

/-- The names, in order. -/
def names (xs : Keyed α) : List String := Named.names xs.entries

/-- How many values there are. -/
def size (xs : Keyed α) : Nat := xs.entries.length

/-- The value under a name. -/
def get? (xs : Keyed α) (name : String) : Option α := Named.get? name xs.entries

/-- Whether the name is there. -/
def contains (xs : Keyed α) (name : String) : Bool := (xs.get? name).isSome

/-- Puts a value under a name. -/
def put (xs : Keyed α) (name : String) (value : α) : Keyed α where
  entries := Named.put name value xs.entries
  nodup := by
    rw [Named.names_put]
    split
    · exact xs.nodup
    · next h =>
      refine List.nodup_append.2 ⟨xs.nodup, by simp, ?_⟩
      intro a ha b hb same
      simp only [List.mem_singleton] at hb
      exact h (hb ▸ same ▸ ha)

/-- Takes a name and its value away. -/
def erase (xs : Keyed α) (name : String) : Keyed α where
  entries := xs.entries.filter fun p => p.1 != name
  nodup := List.Nodup.sublist (List.Sublist.map _ List.filter_sublist) xs.nodup

/-- The values that putting the pairs one after another gives. -/
def ofList (pairs : List (String × α)) : Keyed α :=
  pairs.foldl (fun xs p => xs.put p.1 p.2) empty

/-- The entries once a name is put. -/
@[simp] theorem entries_put (xs : Keyed α) (name : String) (value : α) :
    (xs.put name value).entries = Named.put name value xs.entries := rfl

/-- A dictionary contains exactly its names. -/
theorem contains_iff {xs : Keyed α} {name : String} : xs.contains name = true ↔ name ∈ xs.names :=
  Named.get?_isSome_iff

end Keyed

end WebPreview
