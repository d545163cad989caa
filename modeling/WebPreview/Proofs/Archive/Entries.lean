import Mathlib.Data.List.Nodup
import WebPreview.Archive
import WebPreview.Proofs.Text.Boundaries

/-! # What an archive keeps

An archive is made of all the files or of none (`WebPreview.Archive.entries_eq`): a file whose key
leaves no name for its entry, or one that is too long, cannot be put into it
(`WebPreview.Archive.refusal?`). Different keys may leave the same name, such as `/a` and `a`. Both
files are put into the archive then, but under their name only the last one is found. So an archive
keeps a project, every file under a name of its own, exactly if it refuses no key and no two keys
leave the same name (`WebPreview.Archive.keeps_iff`).
-/

namespace WebPreview

namespace Archive

variable {files : SourceSet} {key : String}

/-- Why the archive does not take a file with this key, if it does not. -/
def refusal? (key : String) : Option ArchiveError :=
  if entryName key = "" then some .emptyName
  else if maxNameBytes < (entryName key).utf8ByteSize then some .longName
  else none

private theorem entry_eq (key : String) (file : SourceFile) :
    entry key file = (refusal? key).elim (.ok ⟨entryName key, file.content⟩) .error := by
  simp only [entry, refusal?]
  split
  · rfl
  · split <;> rfl

/-- The archive takes all the files, or none if there is one that it refuses. -/
theorem entries_eq (files : SourceSet) :
    entries files = (files.names.findSome? refusal?).elim
      (.ok (files.entries.map fun p => ⟨entryName p.1, p.2.content⟩)) .error := by
  unfold entries Keyed.names
  induction files.entries with
  | nil => rfl
  | cons p rest ih =>
      obtain ⟨key, file⟩ := p
      rw [List.mapM_cons, ih]
      simp only [entry_eq, Named.names, List.map_cons, List.findSome?_cons]
      cases refusal? key with
      | some e => rfl
      | none => cases (rest.map Prod.fst).findSome? refusal? <;> rfl

/-- A set is refused with the error of its first refused name. -/
theorem entries_eq_error_iff {e : ArchiveError} :
    entries files = .error e ↔ files.names.findSome? refusal? = some e := by
  rw [entries_eq]
  cases files.names.findSome? refusal? with
  | none => exact iff_of_false nofun nofun
  | some other => rw [Option.elim_some, Except.error.injEq, Option.some.injEq]

/-- No name of a set that is stored is refused. -/
theorem entries_eq_ok {stored : List ArchiveEntry} (taken : entries files = .ok stored) :
    files.names.findSome? refusal? = none := by
  cases refused : files.names.findSome? refusal? with
  | none => rfl
  | some e => cases taken.symm.trans (entries_eq_error_iff.2 refused)

/-- No entry stands at the root of a file system. -/
theorem head?_entryName_ne (key : String) : (entryName key).toList.head? ≠ some '/' := by
  intro first
  rw [entryName, String.toList_ofList] at first
  obtain ⟨more, whole⟩ := List.takeWhile_prefix (· != '\x00')
    (l := (Text.replaceChar '\\' '/' key).toList.dropWhile (· == '/'))
  have left : ((Text.replaceChar '\\' '/' key).toList.dropWhile (· == '/')).head? = some '/' := by
    rw [← whole, List.head?_append, first]
    rfl
  exact absurd (Text.not_of_head?_dropWhile left) (by decide)

/-- What is found under a name: the content of the last entry that has it. -/
def read? (stored : List ArchiveEntry) (name : String) : Option String :=
  (stored.reverse.find? (·.name == name)).map ArchiveEntry.content

/-- The entries keep the files, one entry a file and in order. Each has a name below the archive's
root that no other one has, and its content is found under it. -/
structure Keeps (files : SourceSet) (stored : List ArchiveEntry) : Prop where
  contents : stored.map ArchiveEntry.content = files.entries.map fun p => p.2.content
  named : ∀ e ∈ stored, e.name ≠ ""
  relative : ∀ e ∈ stored, e.name.toList.head? ≠ some '/'
  distinct : (stored.map ArchiveEntry.name).Nodup
  found : ∀ e ∈ stored, read? stored e.name = some e.content

variable {stored : List ArchiveEntry}

private theorem entries_eq_ok_iff : entries files = .ok stored ↔
    (∀ key ∈ files.names, refusal? key = none) ∧
      stored = files.entries.map fun p => ⟨entryName p.1, p.2.content⟩ := by
  rw [entries_eq, ← List.findSome?_eq_none_iff]
  cases files.names.findSome? refusal? with
  | none => rw [Option.elim_none, Except.ok.injEq, eq_comm, and_iff_right rfl]
  | some e => exact iff_of_false nofun fun taken => nomatch taken.1

private theorem exists_read?_eq {e : ArchiveEntry} (inside : e ∈ stored) :
    ∃ last ∈ stored, last.name = e.name ∧ read? stored e.name = some last.content := by
  have there : (stored.reverse.find? (·.name == e.name)).isSome := by
    rw [List.find?_isSome]
    exact ⟨e, List.mem_reverse.2 inside, beq_self_eq_true e.name⟩
  obtain ⟨last, found⟩ := Option.isSome_iff_exists.1 there
  have same : (last.name == e.name) = true :=
    List.find?_some (p := fun f : ArchiveEntry => f.name == e.name) found
  refine ⟨last, List.mem_reverse.1 (List.mem_of_find?_eq_some found), eq_of_beq same, ?_⟩
  rw [read?, found, Option.map_some]

private theorem read?_of_distinct {e : ArchiveEntry}
    (distinct : (stored.map ArchiveEntry.name).Nodup)
    (inside : e ∈ stored) : read? stored e.name = some e.content := by
  obtain ⟨last, listed, same, read⟩ := exists_read?_eq inside
  rw [read, List.inj_on_of_nodup_map distinct listed inside same]

private theorem entryName_ne_empty (taken : refusal? key = none) : entryName key ≠ "" := by
  intro empty
  rw [refusal?, if_pos empty] at taken
  cases taken

private theorem names_of_made (made : entries files = .ok stored) :
    stored.map ArchiveEntry.name = files.names.map entryName := by
  obtain ⟨-, rfl⟩ := entries_eq_ok_iff.1 made
  simp only [Keyed.names, Named.names, List.map_map, Function.comp_def]

/-- An archive that is made keeps the files exactly if no two keys leave the same name. -/
theorem keeps_iff_of_made (made : entries files = .ok stored) :
    Keeps files stored ↔ ∀ key ∈ files.names, ∀ other ∈ files.names,
      entryName key = entryName other → key = other := by
  have distinct_iff := List.nodup_map_iff_inj_on (f := entryName) files.nodup
  have names := names_of_made made
  constructor
  · intro keeps
    have distinct := keeps.distinct
    rw [names] at distinct
    exact distinct_iff.1 distinct
  · intro apart
    have distinct := distinct_iff.2 apart
    change (files.names.map entryName).Nodup at distinct
    rw [← names] at distinct
    obtain ⟨taken, rfl⟩ := entries_eq_ok_iff.1 made
    refine ⟨?_, ?_, ?_, distinct, fun e inside => read?_of_distinct distinct inside⟩
    · rw [List.map_map]
      rfl
    · intro e inside
      obtain ⟨p, listed, rfl⟩ := List.mem_map.1 inside
      exact entryName_ne_empty (taken p.1 (List.mem_map_of_mem listed))
    · intro e inside
      obtain ⟨p, -, rfl⟩ := List.mem_map.1 inside
      exact head?_entryName_ne p.1

/-- In an archive that is made every file is found exactly if files that share a name have the same
content. -/
theorem found_iff_of_made (made : entries files = .ok stored) :
    (∀ p ∈ files.entries, read? stored (entryName p.1) = some p.2.content) ↔
      ∀ p ∈ files.entries, ∀ q ∈ files.entries,
        entryName p.1 = entryName q.1 → p.2.content = q.2.content := by
  obtain ⟨-, rfl⟩ := entries_eq_ok_iff.1 made
  constructor
  · intro found p here q there same
    have first := found p here
    rw [same, found q there] at first
    exact (Option.some.inj first).symm
  · intro agree p here
    obtain ⟨last, listed, same, read⟩ := exists_read?_eq (List.mem_map_of_mem here)
    obtain ⟨q, there, rfl⟩ := List.mem_map.1 listed
    rw [read, agree p here q there same.symm]

/-- **When an archive keeps a project.** There is an archive of the files if none of their keys is
refused, and it is made of one entry a file, in order. It keeps the files exactly if no two keys
leave the same name. If two do, the later file hides the one before, which is lost exactly if it has
another content. -/
theorem keeps_iff (files : SourceSet) :
    ((∃ stored, entries files = .ok stored ∧ Keeps files stored) ↔
      (∀ key ∈ files.names, refusal? key = none) ∧
        ∀ key ∈ files.names, ∀ other ∈ files.names,
          entryName key = entryName other → key = other) ∧
      ((∃ stored, entries files = .ok stored ∧
          ∀ p ∈ files.entries, read? stored (entryName p.1) = some p.2.content) ↔
        (∀ key ∈ files.names, refusal? key = none) ∧
          ∀ p ∈ files.entries, ∀ q ∈ files.entries,
            entryName p.1 = entryName q.1 → p.2.content = q.2.content) ∧
      (∀ stored, entries files = .ok stored ↔ (∀ key ∈ files.names, refusal? key = none) ∧
        stored = files.entries.map fun p => ⟨entryName p.1, p.2.content⟩) ∧
      ∀ e, entries files = .error e ↔ files.names.findSome? refusal? = some e := by
  have exists_iff {good : List ArchiveEntry → Prop} {apart : Prop}
      (of_made : ∀ {stored}, entries files = .ok stored → (good stored ↔ apart)) :
      (∃ stored, entries files = .ok stored ∧ good stored) ↔
        (∀ key ∈ files.names, refusal? key = none) ∧ apart := by
    constructor
    · intro kept
      obtain ⟨stored, made, holds⟩ := kept
      exact ⟨(entries_eq_ok_iff.1 made).1, (of_made made).1 holds⟩
    · intro conditions
      have made := entries_eq_ok_iff.2 ⟨conditions.1, rfl⟩
      exact ⟨_, made, (of_made made).2 conditions.2⟩
  exact ⟨exists_iff keeps_iff_of_made, exists_iff found_iff_of_made,
    fun stored => entries_eq_ok_iff, fun e => entries_eq_error_iff⟩

/-- The files `/a` and `a` share a name, and the first one is lost. A file under a slash leaves none
at all. -/
theorem entries_slashed :
    let files := SourceSet.ofContents [("/a", "1"), ("a", "2")]
    entries files = .ok [⟨"a", "1"⟩, ⟨"a", "2"⟩] ∧
      read? [⟨"a", "1"⟩, ⟨"a", "2"⟩] "a" = some "2" ∧
      (¬∃ stored, entries files = .ok stored ∧ Keeps files stored) ∧
      entries (SourceSet.ofContents [("/", "")]) = .error .emptyName := by
  intro files
  have made : entries files = .ok [⟨"a", "1"⟩, ⟨"a", "2"⟩] := by decide +kernel
  refine ⟨made, by decide, ?_, by decide +kernel⟩
  intro kept
  obtain ⟨stored, again, keeps⟩ := kept
  obtain rfl := Except.ok.inj (made.symm.trans again)
  have distinct := keeps.distinct
  revert distinct
  decide

end Archive

end WebPreview
