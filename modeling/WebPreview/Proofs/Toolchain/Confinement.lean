import WebPreview.Proofs.FileSystem.Changes
import WebPreview.Proofs.Text.Pieces
import WebPreview.Toolchain.Project

/-! # Where a project is written

A key is looked at with either kind of slash taken for a separator, and its file is
written to the path that the key as it stands spells out. The look is enough: whatever
a safe key spells out is in the project directory and not in the toolchain's part of it
(`WebPreview.Project.parts_of_isSafeName`). Writing a project therefore stays in its
directory and leaves nothing in the toolchain's part but the build script, and a key
that would lead elsewhere is refused before anything is written for it
(`WebPreview.Project.write_stays_inside`).
-/

namespace WebPreview

namespace Project

open FileSystem (Changed Changes Grown follow moves steps)

/-- The steps that a key is written with, those that lead nowhere included. -/
def pieces (key : String) : List String := (Text.splitOnChar '/' key.toList).map String.ofList

/-- The steps within one step, if a backslash separates, too. -/
def finer (step : String) : List String := (Text.splitOnChar '\\' step.toList).map String.ofList

/-- The parts of a name are the pieces of it that move. -/
theorem parts_eq (key : String) : FileName.parts key = (pieces key).filter moves := rfl

/-- What a key spells out with either kind of slash for a separator. -/
theorem parts_replaceChar (key : String) :
    FileName.parts (Text.replaceChar '\\' '/' key) =
      ((pieces key).flatMap finer).filter moves := by
  have finest : pieces (Text.replaceChar '\\' '/' key) = (pieces key).flatMap finer := by
    simp only [pieces, finer, Text.replaceChar, String.toList_map, Text.splitOnChar_map,
      List.map_flatMap, List.flatMap_map, String.toList_ofList]
  rw [parts_eq, finest]

/-- The first step that moves stays the first one if no backslash is in it. -/
theorem head?_filter_flatMap (names : List String)
    (whole : ∀ first ∈ (names.filter moves).head?, finer first = [first]) :
    ((names.flatMap finer).filter moves).head? = (names.filter moves).head? := by
  induction names with
  | nil => rfl
  | cons name names ih =>
      rw [List.flatMap_cons]
      by_cases goes : moves name = true
      · rw [List.filter_cons_of_pos goes] at whole ⊢
        rw [whole name rfl, List.singleton_append, List.filter_cons_of_pos goes]
        rfl
      · rw [List.filter_cons_of_neg goes] at whole ⊢
        have unsplit : finer name = [name] := by
          have either : name = "" ∨ name = "." := by
            simpa [moves, Classical.or_iff_not_imp_left] using goes
          rcases either with rfl | rfl <;> rfl
        rw [unsplit, List.singleton_append, List.filter_cons_of_neg goes]
        exact ih whole

/-- What a safe key spells out: a path that is not from the root, leads nowhere up, and
begins with a name that is not that of the toolchain's directory. -/
theorem parts_of_isSafeName {key : String} (safe : isSafeName key = true) :
    FileName.isAbsolute key = false ∧ ".." ∉ pieces key ∧
      ∃ first rest, FileName.parts key = first :: rest ∧ first ≠ toolchainDir := by
  simp only [isSafeName, parts_replaceChar, Bool.and_eq_true, Bool.not_eq_true', bne_iff_ne] at safe
  obtain ⟨⟨⟨nonempty, relative⟩, down⟩, foreign⟩ := safe
  refine ⟨?_, ?_, ?_⟩
  · simp only [FileName.isAbsolute, Text.replaceChar, String.toList_map] at relative ⊢
    cases spelled : key.toList with
    | nil => rfl
    | cons c cs =>
        rw [spelled] at relative
        by_cases slash : c = '/'
        · subst slash
          cases relative
        · simpa using slash
  · intro member
    have kept : ".." ∈ ((pieces key).flatMap finer).filter moves :=
      List.mem_filter.2 ⟨List.mem_flatMap.2 ⟨_, member, List.mem_singleton.2 rfl⟩, rfl⟩
    rw [List.contains_iff_mem.2 kept] at down
    cases down
  · rw [parts_eq]
    have heads := head?_filter_flatMap (pieces key)
    cases chosen : (pieces key).filter moves with
    | nil =>
        rw [chosen] at heads
        rw [List.head?_eq_none_iff.1 (heads (by simp))] at nonempty
        cases nonempty
    | cons first rest =>
        refine ⟨first, rest, rfl, ?_⟩
        rintro rfl
        rw [chosen] at heads
        refine foreign (heads ?_)
        intro name same
        cases same
        rfl

/-- A safe key is written with a step at least. -/
theorem pieces_ne_nil {key : String} (safe : isSafeName key = true) : pieces key ≠ [] := by
  obtain ⟨-, -, first, rest, parts, -⟩ := parts_of_isSafeName safe
  intro none
  rw [parts_eq, none] at parts
  cases parts

/-- The path goes straight down: every step of it is a name. -/
def Straight (directory : String) : Prop :=
  ∀ step ∈ steps directory, moves step = true ∧ step ≠ ".."

/-- The project directory is there under this path, and the path goes straight to it. -/
structure Stands (directory : String) (fs : FileSystem) : Prop where
  straight : Straight directory
  there : ∀ p, p <+: steps directory → fs.get? p = some .directory

/-- A directory that is all there is stands. -/
theorem stands_withDirectory {directory : String} (straight : Straight directory) :
    Stands directory (.withDirectory directory) := by
  refine ⟨straight, fun p leading => ?_⟩
  obtain ⟨rest, whole⟩ := leading
  rw [FileSystem.get?, FileSystem.root_withDirectory, ← whole, FileTree.reach_directories]
  exact FileTree.content?_directories rest

/-- A key that is no path from the root is followed from the project directory. -/
theorem steps_join {directory key : String} (relative : FileName.isAbsolute key = false)
    (straight : Straight directory) :
    steps (join directory key) = steps directory ++ pieces key := by
  have joined (front : List Char) (behind : List Char) :
      steps (String.ofList (front ++ '/' :: behind)) =
        steps (String.ofList front) ++ pieces (String.ofList behind) := by
    obtain ⟨piece, others, split⟩ :=
      List.exists_cons_of_ne_nil (Text.splitOnChar_ne_nil '/' front)
    simp only [steps, pieces, String.toList_ofList, Text.splitOnChar_append_cons, split]
    cases piece <;> simp
  have open_ended : Text.endsWith directory "/" = false := by
    refine Bool.eq_false_iff.2 fun ends => ?_
    obtain ⟨front, whole⟩ := List.isSuffixOf_iff_suffix.1 ends
    have spelled : directory = String.ofList (front ++ '/' :: []) :=
      String.toList_inj.1 (whole.symm.trans String.toList_ofList.symm)
    have stays := (straight "" (by
      rw [spelled, joined]
      exact List.mem_append_right _ (List.mem_singleton.2 rfl))).1
    cases stays
  have spelled : join directory key = String.ofList (directory.toList ++ '/' :: key.toList) := by
    apply String.toList_inj.1
    simp only [join, relative, open_ended, Bool.false_eq_true, ↓reduceIte, String.toList_append,
      String.toList_ofList, List.append_assoc]
    rfl
  rw [spelled, joined, String.ofList_toList, String.ofList_toList]

private theorem filter_moves_steps {directory : String} (straight : Straight directory) :
    (steps directory).filter moves = steps directory :=
  List.filter_eq_self.2 fun step member => (straight step member).1

/-- A path below the project directory that leads nowhere up leads down through every
step of it that moves. -/
theorem follow_below {directory : String} {names : List String} (straight : Straight directory)
    (down : ".." ∉ names) :
    follow [] (steps directory ++ names) = steps directory ++ names.filter moves := by
  have descends : ".." ∉ steps directory ++ names := fun member =>
    (List.mem_append.1 member).elim (fun above => (straight _ above).2 rfl) down
  rw [FileSystem.follow_of_no_up descends, List.nil_append, List.filter_append,
    filter_moves_steps straight]

/-- A leading part of such a path is on the way to the directory, or it leads to a place
below by the first names of the path. -/
theorem follow_part {directory : String} {names part : List String} (straight : Straight directory)
    (down : ".." ∉ names) (leading : part <+: steps directory ++ names) :
    follow [] part <+: steps directory ∨ ∃ name rest,
      follow [] part = steps directory ++ name :: rest ∧ name :: rest <+: names.filter moves := by
  rcases List.prefix_or_prefix_of_prefix leading (List.prefix_append _ names) with above | below
  · left
    have descends : ".." ∉ part := fun member => (straight _ (above.subset member)).2 rfl
    rw [FileSystem.follow_of_no_up descends, List.nil_append]
    exact filter_moves_steps straight ▸ above.filter moves
  · obtain ⟨rest, rfl⟩ := below
    have among := (List.prefix_append_right_inj _).1 leading
    rw [follow_below straight fun member => down (among.subset member)]
    cases beyond : rest.filter moves with
    | nil => exact .inl ⟨[], by simp⟩
    | cons name others => exact .inr ⟨name, others, rfl, beyond ▸ among.filter moves⟩

/-- The place is one of the project's own: in the directory, and not the toolchain's
directory or below that. -/
def Own (directory : String) (p : Path) : Prop :=
  ∃ name rest, p = steps directory ++ name :: rest ∧ name ≠ toolchainDir

/-- What writing a project may leave at a place. -/
inductive Allowed (directory script : String) : Path → FileNode → Prop where
  /-- Anything at a place of the project's own. -/
  | own {p : Path} (here : Own directory p) (node : FileNode) : Allowed directory script p node
  /-- The toolchain's directory. -/
  | toolchain : Allowed directory script (steps directory ++ [toolchainDir]) .directory
  /-- The build script, in the toolchain's directory. -/
  | script : Allowed directory script (steps directory ++ [toolchainDir, scriptName]) (.file script)

/-- Writing under the key would leave the project's own places: the path leads out of
them, or a leading part of it does that is not on the way to the directory. -/
def Strays (directory key : String) : Prop :=
  ¬Own directory (follow [] (steps (join directory key))) ∨
    ∃ part, part <+: steps (join directory key) ∧ ¬follow [] part <+: steps directory ∧
      ¬Own directory (follow [] part)

variable {directory : String} {fs : FileSystem}

/-- A place below another does not lead to it. -/
theorem not_prefix_below {base rest : List String} {name : String} :
    ¬base ++ name :: rest <+: base := by
  intro leading
  have short := leading.length_le
  rw [List.length_append, List.length_cons] at short
  omega

/-- The place is below the project directory. -/
def Inside (directory : String) (p : Path) : Prop :=
  ∃ name rest, p = steps directory ++ name :: rest

private theorem Allowed.inside {script : String} {p : Path} {node : FileNode}
    (here : Allowed directory script p node) : Inside directory p := by
  cases here with
  | own here =>
      obtain ⟨name, rest, place, -⟩ := here
      exact ⟨name, rest, place⟩
  | toolchain => exact ⟨_, _, rfl⟩
  | script => exact ⟨_, _, rfl⟩

/-- What is put in below the directory leaves it where it is. -/
theorem Stands.of_grown {allowed : Path → FileNode → Prop} {fs' : FileSystem}
    (stands : Stands directory fs) (inside : ∀ p node, allowed p node → Inside directory p)
    (grown : Grown allowed fs fs') : Stands directory fs' := by
  refine ⟨stands.straight, fun p leading => ?_⟩
  rw [grown.changed.get?_eq, stands.there p leading]
  intro node here
  obtain ⟨name, rest, rfl⟩ := inside p node here
  exact not_prefix_below leading

/-- Every leading part of a safe key's path is on the way to the directory or leads to
one of the project's own places. -/
theorem own_of_isSafeName {key : String} (safe : isSafeName key = true)
    (straight : Straight directory) {part : List String}
    (leading : part <+: steps (join directory key)) :
    follow [] part <+: steps directory ∨ Own directory (follow [] part) := by
  obtain ⟨relative, down, first, rest, parts, foreign⟩ := parts_of_isSafeName safe
  rw [steps_join relative straight] at leading
  refine (follow_part straight down leading).imp_right ?_
  rintro ⟨name, others, place, among⟩
  rw [← parts_eq, parts, List.cons_prefix_cons] at among
  exact ⟨name, others, place, among.1 ▸ foreign⟩

private theorem not_strays_of_isSafeName {key : String} (safe : isSafeName key = true)
    (straight : Straight directory) : ¬Strays directory key := by
  rintro (leads | ⟨part, leading, outside, foreign⟩)
  · obtain ⟨relative, down, first, rest, parts, foreign⟩ := parts_of_isSafeName safe
    refine leads ⟨first, rest, ?_, foreign⟩
    rw [steps_join relative straight, follow_below straight down, ← parts_eq, parts]
  · exact (own_of_isSafeName safe straight leading).elim outside foreign

/-- A file operation is run as it is, and its error is raised. -/
theorem run_ofFileOp {α : Type} (op : FileOp α) (fs : FileSystem) :
    (ofFileOp op).run.run fs =
      ((op.run.run fs).1.mapError FileFault.toRaised, (op.run.run fs).2) :=
  rfl

/-- A file operation changes the same when its error is raised. -/
theorem changes_ofFileOp {α : Type} {allowed : Path → FileNode → Prop} {op : FileOp α}
    (changes : Changes allowed fs op) : Changes allowed fs (ofFileOp op) :=
  changes

/-- A refused name writes nothing. -/
theorem run_writeEntry_of_refused {key : String} (refused : isSafeName key = false) (room : Nat)
    (content : String) (fs : FileSystem) :
    (writeEntry room directory key content).run.run fs =
      (.error (.preview (unsafeName key)), fs) := by
  simp only [writeEntry, refused, Bool.not_false, ↓reduceIte]
  rfl

/-- A safe key is written to a place that is no directory, once the directories above it are
made. -/
theorem run_writeEntry_of_made {key content : String} {p : Path} {room : Nat} {fs' : FileSystem}
    (safe : isSafeName key = true)
    (made : (FileOp.ensureDirectories room
      (FileSystem.parent (steps (join directory key)))).run.run fs = (.ok (), fs'))
    (located : fs'.locate (steps (join directory key)) = .ok p)
    (free : fs'.get? p ≠ some .directory) :
    (writeEntry room directory key content).run.run fs = (.ok (), fs'.put p (.file content)) := by
  simp only [writeEntry, safe, Bool.not_true, Bool.false_eq_true, ↓reduceIte]
  rw [FileSystem.run_bind, run_ofFileOp, made]
  change (ofFileOp _).run.run fs' = _
  rw [run_ofFileOp, FileSystem.run_writeFile_of_located located free]
  rfl

/-- A safe key is written where nothing is in the way. -/
theorem run_writeEntry_of_located {key content : String} {p : Path} (room : Nat)
    (safe : isSafeName key = true)
    (there : fs.find? (FileSystem.parent (steps (join directory key))) = some .directory)
    (above : (fs.find? (FileSystem.parent (FileSystem.parent (steps (join directory key))))).isSome)
    (located : fs.locate (steps (join directory key)) = .ok p)
    (free : fs.get? p ≠ some .directory) :
    (writeEntry room directory key content).run.run fs = (.ok (), fs.put p (.file content)) :=
  run_writeEntry_of_made safe (FileSystem.run_ensureDirectories_of_there room there above) located
    free

/-- What is put in when a file is written under the key is allowed, as far as it is not on the way
to the project directory. -/
structure Permits (allowed : Path → FileNode → Prop) (directory key content : String) : Prop where
  directories : ∀ part, part <+: FileSystem.parent (steps (join directory key)) →
    follow [] part <+: steps directory ∨ allowed (follow [] part) .directory
  file : allowed (follow [] (steps (join directory key))) (.file content)

section Writing

variable {allowed : Path → FileNode → Prop} {script : String} {room : Nat}

/-- Writing under a key makes allowed changes if, for a safe key, making the directories above the
file does, and then writing the file. -/
theorem changes_writeEntry_of_safe {key content : String}
    (above : isSafeName key = true → Changes allowed fs
      (FileOp.ensureDirectories room (FileSystem.parent (steps (join directory key)))))
    (file : isSafeName key = true → ∀ fs', Grown allowed fs fs' → Changes allowed fs'
      (FileOp.writeFile (steps (join directory key)) content)) :
    Changes allowed fs (writeEntry room directory key content) := by
  cases safe : isSafeName key with
  | false =>
      unfold Changes
      rw [run_writeEntry_of_refused safe]
      exact .refl
  | true =>
      simp only [writeEntry, safe, Bool.not_true, Bool.false_eq_true, ↓reduceIte]
      exact Changes.bind (changes_ofFileOp (above safe))
        fun _ fs' grown => changes_ofFileOp (file safe fs' grown)

private theorem changes_writeEntry (stands : Stands directory fs) {key content : String}
    (permits : isSafeName key = true → Permits allowed directory key content) :
    Changes allowed fs (writeEntry room directory key content) := by
  refine changes_writeEntry_of_safe (fun safe => ?_)
    fun safe _ _ => FileSystem.changes_writeFile (permits safe).file
  refine FileSystem.changes_ensureDirectories room fun part leading => ?_
  rcases (permits safe).directories part leading with above | below
  · exact .inr (by rw [stands.there _ above, Option.isSome_some])
  · exact .inl below

private theorem changes_writeScript (stands : Stands directory fs)
    (tools : allowed (steps directory ++ [toolchainDir]) .directory)
    (own : allowed (steps directory ++ [toolchainDir, scriptName]) (.file script)) :
    Changes allowed fs (writeScript room directory script) := by
  have spelled : steps (join directory toolchainDir) = steps directory ++ [toolchainDir] :=
    steps_join rfl stands.straight
  unfold writeScript
  rw [spelled]
  refine Changes.bind (changes_ofFileOp (FileSystem.changes_ensureDirectories room ?_)) ?_
  · intro part leading
    rcases follow_part stands.straight (by decide) leading with above | ⟨name, rest, here, among⟩
    · exact .inr (by rw [stands.there _ above, Option.isSome_some])
    · have only : name :: rest <+: [toolchainDir] := among
      rw [List.cons_prefix_cons, List.prefix_nil] at only
      rw [here, only.1, only.2]
      exact .inl tools
  · intro _ fs' _
    refine changes_ofFileOp (FileSystem.changes_writeFile ?_)
    rw [List.append_assoc, List.singleton_append, follow_below stands.straight (by decide)]
    exact own

private theorem changes_writeEntries (inside : ∀ p node, allowed p node → Inside directory p)
    (stands : Stands directory fs) {entries : List (String × SourceFile)}
    (permits : ∀ entry ∈ entries, isSafeName entry.1 = true →
      Permits allowed directory entry.1 entry.2.content) :
    Changes allowed fs
      (entries.forM fun (key, file) => writeEntry room directory key file.content) :=
  Changes.forM (fun _ _ stands grown => stands.of_grown inside grown)
    (fun entry member _ stands => changes_writeEntry stands (permits entry member)) stands

/-- Writing a project puts in nothing that is not allowed, if all is allowed that a safe key needs
and that the build script needs. -/
theorem changes_write (inside : ∀ p node, allowed p node → Inside directory p)
    (stands : Stands directory fs) {files : SourceSet}
    (permits : ∀ entry ∈ files.entries, isSafeName entry.1 = true →
      Permits allowed directory entry.1 entry.2.content)
    (tools : allowed (steps directory ++ [toolchainDir]) .directory)
    (own : allowed (steps directory ++ [toolchainDir, scriptName]) (.file script)) :
    Changes allowed fs (write room directory script files) :=
  Changes.bind (changes_writeEntries inside stands permits)
    fun _ _ grown => changes_writeScript (stands.of_grown inside grown) tools own

end Writing

/-- Writing under a safe key needs nothing but the project's own places. -/
theorem permits_of_isSafeName {key : String} (safe : isSafeName key = true)
    (straight : Straight directory) (script content : String) :
    Permits (Allowed directory script) directory key content where
  directories _ leading :=
    (own_of_isSafeName safe straight (leading.trans (FileSystem.leading_parent _))).imp_right
      fun own => .own own _
  file := .own (Classical.not_not.1 fun leads =>
    not_strays_of_isSafeName safe straight (.inl leads)) _

/-- **Writing a project stays inside.** Whether it succeeds or stops half way, it leaves
every place as it was that is not in the project directory, and at the toolchain's
directory and below it nothing but the directory itself and the build script. A key
that would lead elsewhere, by itself or on the way, is refused by its name, and nothing
is written after what came before it. -/
theorem write_stays_inside (stands : Stands directory fs) (room : Nat) (script : String)
    (files : SourceSet) :
    Changed (Allowed directory script) fs ((write room directory script files).run.run fs).2 ∧
      ∀ before key file rest fs', files.entries = before ++ (key, file) :: rest →
        Strays directory key →
        (before.forM fun (key, file) => writeEntry room directory key file.content).run.run fs =
          (.ok (), fs') →
        (write room directory script files).run.run fs =
          (.error (.preview ⟨.remoteUnavailable,
            "Refusing to write unsafe file name: " ++ key, key⟩), fs') := by
  constructor
  · have changes : Changes (Allowed directory script) fs (write room directory script files) :=
      changes_write (fun _ _ => Allowed.inside) stands
        (fun entry _ safe => permits_of_isSafeName safe stands.straight script _) .toolchain .script
    exact changes.changed
  · intro before key file rest fs' split strays ran
    have refused : isSafeName key = false :=
      Bool.eq_false_iff.2 fun safe => not_strays_of_isSafeName safe stands.straight strays
    rw [List.forM_eq_forM] at ran
    simp only [write, split, List.forM_eq_forM, List.forM_append, List.forM_cons,
      FileSystem.run_bind, ran, run_writeEntry_of_refused refused]
    rfl

/-- A key that leads out of its directory again is refused when its turn comes. What was
written before it stays. -/
theorem write_stays_inside_climbing :
    let fs : FileSystem := .withDirectory "/tmp/p"
    let files : SourceSet := .ofContents [("a.js", "1"), ("b/../../c.js", "2")]
    let fs' := fs.put ["tmp", "p", "a.js"] (.file "1")
    Stands "/tmp/p" fs ∧ Strays "/tmp/p" "b/../../c.js" ∧
      (write usualRoom "/tmp/p" "" files).run.run fs =
        (.error (.preview ⟨.remoteUnavailable,
          "Refusing to write unsafe file name: b/../../c.js", "b/../../c.js"⟩), fs') := by
  intro fs files fs'
  have stands : Stands "/tmp/p" fs := stands_withDirectory (by unfold Straight; decide)
  have strays : Strays "/tmp/p" "b/../../c.js" := by
    left
    rintro ⟨name, rest, place, -⟩
    revert place
    change ["tmp", "c.js"] = "tmp" :: "p" :: name :: rest → False
    simp
  refine ⟨stands, strays, ?_⟩
  refine (write_stays_inside stands usualRoom "" files).2 [("a.js", SourceFile.ofName "a.js" "1")]
    "b/../../c.js" (SourceFile.ofName "b/../../c.js" "2") [] fs' rfl strays ?_
  have written : (writeEntry usualRoom "/tmp/p" "a.js"
      (SourceFile.ofName "a.js" "1").content).run.run fs = (.ok (), fs') :=
    run_writeEntry_of_located usualRoom (by decide +kernel) rfl rfl rfl (by decide)
  simp only [List.forM_eq_forM, List.forM_cons, FileSystem.run_bind, written]
  rfl

end Project

end WebPreview
