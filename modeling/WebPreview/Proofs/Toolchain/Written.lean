import WebPreview.Proofs.Except
import WebPreview.Proofs.Toolchain.Confinement

/-! # What writing a project leaves behind

Files are written one after the other, and the path of a later one may lead to the place of an
earlier one. No step turns a directory into a file or a file into a directory, so what was written
stays of its kind (`WebPreview.Project.hasKind_write`): once a project is written, there is a file
at the place of every key, and there are directories on the way to it
(`WebPreview.Project.hasKind_of_writeFresh`).
-/

namespace WebPreview

/-- What is at a place is a directory. -/
def FileNode.isDirectory : FileNode → Bool
  | directory => true
  | file _ => false

namespace FileSystem

variable {q : Path} {kind : Bool} {fs before after : FileSystem} {steps : List String}

/-- There is something of a kind at the place: a directory, or else a file. -/
def HasKind (fs : FileSystem) (q : Path) (kind : Bool) : Prop :=
  ∃ node, fs.get? q = some node ∧ node.isDirectory = kind

/-- At this place nothing is left but what is of this kind. -/
def KindAt (q : Path) (kind : Bool) (p : Path) (node : FileNode) : Prop :=
  p = q → node.isDirectory = kind

/-- There is a directory at the place. -/
theorem hasKind_directory_iff : fs.HasKind q true ↔ fs.get? q = some .directory := by
  constructor
  · rintro ⟨_ | content, found, kind⟩
    · exact found
    · cases kind
  · intro found
    exact ⟨_, found, rfl⟩

/-- There is a file at the place. -/
theorem hasKind_file_iff :
    fs.HasKind q false ↔ ∃ content, fs.get? q = some (.file content) := by
  constructor
  · rintro ⟨_ | content, found, kind⟩
    · cases kind
    · exact ⟨content, found⟩
  · rintro ⟨content, found⟩
    exact ⟨_, found, rfl⟩

/-- What is at the place stays of its kind. -/
theorem Changed.hasKind (changed : Changed (KindAt q kind) before after)
    (there : before.HasKind q kind) : after.HasKind q kind := by
  rcases changed q with same | ⟨node, allowed, found⟩
  · rwa [HasKind, same]
  · exact ⟨node, found, allowed rfl⟩

private theorem changes_ensureDirectories_of_hasKind (there : fs.HasKind q kind) (room : Nat)
    (steps : List String) : Changes (KindAt q kind) fs (FileOp.ensureDirectories room steps) := by
  obtain ⟨node, found, -⟩ := there
  refine changes_ensureDirectories room fun part leading => ?_
  by_cases here : follow [] part = q
  · exact .inr (by rw [here, found, Option.isSome_some])
  · exact .inl fun same => absurd same here

private theorem changes_writeFile_of_hasKind (there : fs.HasKind q kind) (steps : List String)
    (content : String) : Changes (KindAt q kind) fs (FileOp.writeFile steps content) := by
  refine changes_at ?_
  unfold Changes
  rw [run_getThe_bind]
  split
  · exact .refl
  · next free =>
    refine .put .refl fun same => ?_
    obtain ⟨_ | _, found, rfl⟩ := there
    · exact absurd (same ▸ found) free
    · rfl

/-- A path can only be followed through directories. -/
private theorem directory_of_walk {here : List String} {p : Path}
    (walked : walk fs here (fs.root.reach here.reverse) steps = .ok p) :
    ∀ front step, front ++ [step] <+: steps →
      fs.get? (follow here.reverse front) = some .directory := by
  induction steps generalizing here with
  | nil =>
      intro front step leading
      exact absurd (List.prefix_nil.1 leading) (by simp)
  | cons next rest ih =>
      intro front step leading
      unfold walk at walked
      split at walked
      · cases walked
      · cases walked
      · next directory =>
        cases front with
        | nil => exact directory
        | cons first front =>
            rw [List.cons_append] at leading
            obtain ⟨rfl, among⟩ := List.cons_prefix_cons.1 leading
            unfold follow
            split at walked
            · next stays =>
              rw [if_pos stays]
              exact ih walked front step among
            · next goes =>
              rw [if_neg goes]
              split at walked
              · next up =>
                rw [if_pos up, List.dropLast_reverse]
                exact ih walked front step among
              · next down =>
                rw [if_neg down, ← List.reverse_cons]
                split at walked
                · cases walked
                · have below : (fs.root.reach here.reverse).child first =
                      fs.root.reach (first :: here).reverse := by
                    rw [List.reverse_cons, FileTree.reach_append]
                    rfl
                  rw [below] at walked
                  exact ih walked front step among

/-- A file that was written is there, and so are directories at the leading parts of its path. -/
theorem hasKind_of_writeFile {content : String}
    (written : (FileOp.writeFile steps content).run.run before = (.ok (), after)) :
    after.HasKind (follow [] steps) false ∧
      ∀ front step, front ++ [step] <+: steps → after.HasKind (follow [] front) true := by
  cases located : before.locate steps with
  | error cause =>
      unfold FileOp.writeFile at written
      rw [run_bind, run_locate, located] at written
      cases written
  | ok p =>
      obtain rfl := eq_follow_of_locate located
      by_cases directory : before.get? (follow [] steps) = some .directory
      · unfold FileOp.writeFile at written
        rw [run_bind, run_locate, located] at written
        simp only at written
        rw [run_getThe_bind, directory] at written
        cases written
      · rw [run_writeFile_of_located located directory] at written
        obtain ⟨-, rfl⟩ := Prod.mk.inj written
        have below : follow [] steps ≠ [] := by
          intro root
          rw [root] at directory
          exact directory rfl
        refine ⟨⟨_, get?_put_self before below _, rfl⟩, fun front step leading => ?_⟩
        have above : before.get? (follow [] front) = some .directory :=
          directory_of_walk (walk_of_locate located) front step leading
        have other : follow [] front ≠ follow [] steps := fun same => directory (same ▸ above)
        exact ⟨_, (get?_put_of_ne before other _).trans above, rfl⟩

end FileSystem

namespace Project

open FileSystem (Changes Grown HasKind KindAt follow steps)

variable {directory key content script : String} {room : Nat} {q : Path} {kind : Bool}
  {fs fs' : FileSystem}

/-- The place that a name leads to from the project directory. -/
def place (directory name : String) : Path := follow [] (steps (join directory name))

/-- The place of a safe name is below the project directory. -/
theorem place_of_isSafeName {name : String} (safe : isSafeName name = true)
    (straight : Straight directory) :
    place directory name = steps directory ++ FileName.parts name := by
  obtain ⟨relative, down, -⟩ := parts_of_isSafeName safe
  rw [place, steps_join relative straight, follow_below straight down, parts_eq]

/-- The directories that a key names on the way to its file, one in the other. -/
def above (key : String) : List String := (pieces key).dropLast.filter FileSystem.moves

private theorem changes_writeEntry_of_hasKind (there : fs.HasKind q kind) (key content : String) :
    Changes (KindAt q kind) fs (writeEntry room directory key content) :=
  changes_writeEntry_of_safe
    (fun _ => FileSystem.changes_ensureDirectories_of_hasKind there room _)
    fun _ _ grown =>
      FileSystem.changes_writeFile_of_hasKind (grown.changed.hasKind there) _ content

private theorem changes_writeScript_of_hasKind (there : fs.HasKind q kind) (script : String) :
    Changes (KindAt q kind) fs (writeScript room directory script) :=
  Changes.bind
    (changes_ofFileOp (FileSystem.changes_ensureDirectories_of_hasKind there room _))
    fun _ _ grown => changes_ofFileOp
      (FileSystem.changes_writeFile_of_hasKind (grown.changed.hasKind there) _ script)

private theorem changes_writeEntries_of_hasKind (there : fs.HasKind q kind) (room : Nat)
    (directory : String) (entries : List (String × SourceFile)) :
    Changes (KindAt q kind) fs
      (entries.forM fun (key, file) => writeEntry room directory key file.content) :=
  Changes.forM (fun _ _ there grown => grown.changed.hasKind there)
    (fun entry _ _ there => changes_writeEntry_of_hasKind there entry.1 entry.2.content) there

private theorem run_of_ofFileOp {α : Type} {op : FileOp α} {a : α}
    (ran : (ofFileOp op).run.run fs = (.ok a, fs')) : op.run.run fs = (.ok a, fs') := by
  rw [run_ofFileOp] at ran
  obtain ⟨value, left⟩ := Prod.mk.inj ran
  exact Prod.ext (Except.mapError_eq_ok_iff.1 value) left

/-- A key that goes straight down has the directories above its file below the project directory. -/
theorem follow_above (safe : isSafeName key = true) (straight : Straight directory) :
    ∃ step, steps directory ++ (pieces key).dropLast ++ [step] <+: steps (join directory key) ∧
      follow [] (steps directory ++ (pieces key).dropLast) = steps directory ++ above key := by
  obtain ⟨relative, down, -⟩ := parts_of_isSafeName safe
  have whole : steps directory ++ (pieces key).dropLast ++
      [(pieces key).getLast (pieces_ne_nil safe)] = steps (join directory key) := by
    rw [steps_join relative straight, List.append_assoc, List.dropLast_concat_getLast]
  refine ⟨_, ⟨[], (List.append_nil _).trans whole⟩, follow_below straight fun member => ?_⟩
  exact down (List.dropLast_subset _ member)

/-- A file that was written under a key is at its place, and directories are at the leading parts
of the path. -/
theorem hasKind_of_writeEntry
    (written : (writeEntry room directory key content).run.run fs = (.ok (), fs')) :
    fs'.HasKind (place directory key) false ∧
      ∀ front step, front ++ [step] <+: steps (join directory key) →
        fs'.HasKind (follow [] front) true := by
  cases safe : isSafeName key with
  | false =>
      rw [run_writeEntry_of_refused safe] at written
      cases written
  | true =>
      simp only [writeEntry, safe, Bool.not_true, Bool.false_eq_true, ↓reduceIte] at written
      rw [FileSystem.run_bind] at written
      split at written
      · exact FileSystem.hasKind_of_writeFile (run_of_ofFileOp written)
      · cases written

/-- What is there once one of the files is written is there once all are. -/
theorem hasKind_of_written {entries : List (String × SourceFile)}
    (written : (entries.forM fun (key, file) =>
      writeEntry room directory key file.content).run.run fs = (.ok (), fs'))
    {entry : String × SourceFile} (member : entry ∈ entries)
    (made : ∀ before after, (writeEntry room directory entry.1 entry.2.content).run.run before =
      (.ok (), after) → after.HasKind q kind) :
    fs'.HasKind q kind := by
  induction entries generalizing fs with
  | nil => cases member
  | cons first rest ih =>
      rw [List.forM_eq_forM, List.forM_cons, FileSystem.run_bind] at written
      split at written
      · next fs₁ ran =>
          rcases List.mem_cons.1 member with rfl | later
          · have there := made fs fs₁ ran
            have kept : Grown (KindAt q kind) fs₁ _ :=
              changes_writeEntries_of_hasKind there room directory rest
            rw [List.forM_eq_forM, written] at kept
            exact kept.changed.hasKind there
          · exact ih written later
      · cases written

/-- Where the files of a project are written without a fault, every key of theirs is safe. -/
theorem isSafeName_of_written {entries : List (String × SourceFile)}
    (written : (entries.forM fun (key, file) =>
      writeEntry room directory key file.content).run.run fs = (.ok (), fs')) :
    ∀ entry ∈ entries, isSafeName entry.1 = true := by
  induction entries generalizing fs with
  | nil =>
      intro entry member
      cases member
  | cons first rest ih =>
      obtain ⟨key, file⟩ := first
      rw [List.forM_eq_forM, List.forM_cons, FileSystem.run_bind] at written
      cases safe : isSafeName key with
      | false =>
          rw [run_writeEntry_of_refused safe] at written
          cases written
      | true =>
          intro entry member
          rcases List.mem_cons.1 member with rfl | member
          · exact safe
          · split at written
            · exact ih written entry member
            · cases written

/-- What is there once the files are written is there when the build script has been written, too,
and where it could not be. -/
theorem hasKind_write {files : SourceSet}
    (written : (files.entries.forM fun (key, file) =>
      writeEntry room directory key file.content).run.run fs = (.ok (), fs'))
    (there : fs'.HasKind q kind) :
    ((write room directory script files).run.run fs).2.HasKind q kind := by
  unfold write
  rw [FileSystem.run_bind, written]
  exact Grown.changed (changes_writeScript_of_hasKind there script) |>.hasKind there

/-- Once a project is written, every key is safe, a file is at its place, and directories are at the
leading parts of its path. -/
theorem hasKind_of_writeFresh {files : SourceSet}
    (written : writeFresh room directory script files = (.ok (), fs))
    {entry : String × SourceFile} (member : entry ∈ files.entries) :
    isSafeName entry.1 = true ∧ fs.HasKind (place directory entry.1) false ∧
      ∀ front step, front ++ [step] <+: steps (join directory entry.1) →
        fs.HasKind (follow [] front) true := by
  have last : ((write room directory script files).run.run (.withDirectory directory)).2 = fs :=
    congrArg Prod.snd written
  unfold writeFresh write at written
  rw [FileSystem.run_bind] at written
  split at written
  · next fs₁ entries =>
    have kept {q : Path} {kind : Bool} (there : fs₁.HasKind q kind) : fs.HasKind q kind :=
      last ▸ hasKind_write entries there
    refine ⟨isSafeName_of_written entries entry member, kept ?_, fun front step leading => kept ?_⟩
    · exact hasKind_of_written entries member fun _ _ ran => (hasKind_of_writeEntry ran).1
    · exact hasKind_of_written entries member fun _ _ ran =>
        (hasKind_of_writeEntry ran).2 front step leading
  · cases written

end Project

end WebPreview
