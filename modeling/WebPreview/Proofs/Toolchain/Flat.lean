import WebPreview.Proofs.Toolchain.Confinement

/-! # Flat projects

A project is flat if every key of it is a plain name: one step, not too long, that may be
written. Nothing can be in the way of such a project, since all that its directory ever holds
while it is written are files right in it, so it is written without an error whatever its
contents are (`WebPreview.Project.writeFresh_of_flat`), as long as the path to the directory leaves
room for one more name.
-/

namespace WebPreview

namespace FileSystem

variable {fs : FileSystem} {steps : List String}

/-- The step is one that a place may be named by: it goes down, and its name is neither too
long nor broken by a null character. -/
structure PlainStep (step : String) : Prop where
  goes : moves step = true
  down : step ≠ ".."
  short : step.utf8ByteSize ≤ maxNameBytes
  whole : '\x00' ∉ step.toList

instance : DecidablePred PlainStep := fun step =>
  decidable_of_iff (moves step = true ∧ step ≠ ".." ∧ step.utf8ByteSize ≤ maxNameBytes ∧
    '\x00' ∉ step.toList)
    ⟨fun ⟨goes, down, short, whole⟩ => ⟨goes, down, short, whole⟩,
      fun plain => ⟨plain.goes, plain.down, plain.short, plain.whole⟩⟩

/-- The bytes of a path in two parts. -/
theorem pathBytes_append (front back : List String) :
    pathBytes (front ++ back) = pathBytes front + pathBytes back := by
  induction front with
  | nil => rw [List.nil_append, pathBytes, Nat.zero_add]
  | cons step rest ih =>
      rw [List.cons_append, pathBytes, pathBytes, ih]
      exact (Nat.add_assoc _ _ _).symm

/-- A path of names through directories leads where it spells out. -/
theorem walk_of_plain (plain : ∀ step ∈ steps, PlainStep step) {here : List String}
    (through : ∀ front step, front ++ [step] <+: steps →
      fs.get? (here.reverse ++ front) = some .directory) :
    walk fs here (fs.root.reach here.reverse) steps = .ok (here.reverse ++ steps) := by
  induction steps generalizing here with
  | nil => rw [walk, List.append_nil]
  | cons step rest ih =>
      obtain ⟨named, others⟩ := List.forall_mem_cons.1 plain
      have directory : (fs.root.reach here.reverse).content? = some .directory := by
        have first := through [] step (List.prefix_append [step] rest)
        rwa [List.append_nil] at first
      have stays : ¬(decide (step = "") || decide (step = ".")) = true := by
        simpa [moves] using named.goes
      have below : walk fs (step :: here) (fs.root.reach (step :: here).reverse) rest =
          .ok ((step :: here).reverse ++ rest) := by
        refine ih others fun front last leading => ?_
        rw [List.reverse_cons, List.append_assoc, List.singleton_append]
        refine through (step :: front) last ?_
        rw [List.cons_append]
        exact List.cons_prefix_cons.2 ⟨rfl, leading⟩
      rw [List.reverse_cons, FileTree.reach_append] at below
      rw [walk, directory]
      simp only
      rw [if_neg stays, if_neg named.down, if_neg (Nat.not_lt.2 named.short)]
      refine below.trans ?_
      rw [List.append_assoc, List.singleton_append]

/-- A path of names leads where it spells out if it is not too long and every part of it but the
last one is a directory. -/
theorem locate_of_plain (plain : ∀ step ∈ steps, PlainStep step)
    (short : pathBytes steps ≤ maxPathBytes)
    (through : ∀ front step, front ++ [step] <+: steps → fs.get? front = some .directory) :
    fs.locate steps = .ok steps := by
  have whole : ¬steps.any (·.toList.contains '\x00') = true := by
    rw [Bool.not_eq_true, List.any_eq_false]
    intro step member contained
    exact (plain step member).whole (List.contains_iff_mem.1 contained)
  rw [locate, if_neg whole, if_neg (Nat.not_lt.2 short)]
  have started : ∀ front step, front ++ [step] <+: steps →
      fs.get? ([].reverse ++ front) = some .directory := through
  exact walk_of_plain plain started

/-- A name in a directory leads to its place there. -/
theorem locate_concat (plain : ∀ step ∈ steps, PlainStep step) {name : String}
    (named : PlainStep name) (short : pathBytes (steps ++ [name]) ≤ maxPathBytes)
    (there : ∀ p, p <+: steps → fs.get? p = some .directory) :
    fs.locate (steps ++ [name]) = .ok (steps ++ [name]) := by
  refine locate_of_plain ?_ short fun front step leading => there front ?_
  · rw [List.forall_mem_append, List.forall_mem_singleton]
    exact ⟨plain, named⟩
  · rcases List.prefix_concat_iff.1 leading with whole | part
    · exact (List.append_inj_left' whole rfl) ▸ List.prefix_refl _
    · exact (List.prefix_append front [step]).trans part

/-- Every leading part of a path of names is found if all of them are directories. -/
theorem find?_of_leading (plain : ∀ step ∈ steps, PlainStep step)
    (short : pathBytes steps ≤ maxPathBytes)
    (there : ∀ p, p <+: steps → fs.get? p = some .directory) {part : List String}
    (leading : part <+: steps) : fs.find? part = some .directory := by
  have fits : pathBytes part ≤ maxPathBytes := by
    obtain ⟨rest, rfl⟩ := leading
    rw [pathBytes_append] at short
    exact Nat.le_trans (Nat.le_add_right _ _) short
  have located : fs.locate part = .ok part := by
    refine locate_of_plain (fun step member => plain step (leading.subset member)) fits ?_
    intro front step among
    exact there front (((List.prefix_append front [step]).trans among).trans leading)
  simp only [find?, located]
  exact there part leading

/-- The directory that the last of some names is in. -/
theorem parent_concat_of_plain (plain : ∀ step ∈ steps, PlainStep step) (last : String) :
    parent (steps ++ [last]) = steps := by
  have kept : steps.reverse.dropWhile (· == "") = steps.reverse := by
    cases spelled : steps.reverse with
    | nil => rfl
    | cons step rest =>
        have member : step ∈ steps := List.mem_reverse.1 (spelled ▸ List.mem_cons_self)
        have moving := (plain step member).goes
        refine List.dropWhile_cons_of_neg fun empty => ?_
        rw [beq_iff_eq.1 empty] at moving
        cases moving
  rw [parent, List.dropLast_concat, kept, List.reverse_reverse]

end FileSystem

namespace Project

open FileSystem (PlainStep locate_concat locate_of_plain parent_concat_of_plain steps)

/-- The directory's path is made of names, and leaves room for one more. -/
structure Plain (directory : String) : Prop where
  named : ∀ step ∈ steps directory, PlainStep step
  short : FileSystem.pathBytes (steps directory) + (1 + FileSystem.maxNameBytes) ≤
    FileSystem.maxPathBytes

instance : DecidablePred Plain := fun directory =>
  decidable_of_iff ((∀ step ∈ steps directory, PlainStep step) ∧
    FileSystem.pathBytes (steps directory) + (1 + FileSystem.maxNameBytes) ≤
      FileSystem.maxPathBytes)
    ⟨fun ⟨named, short⟩ => ⟨named, short⟩, fun plain => ⟨plain.named, plain.short⟩⟩

/-- The key may be written under, and is a name as it stands. -/
structure FlatKey (key : String) : Prop where
  safe : isSafeName key = true
  single : pieces key = [key]
  short : key.utf8ByteSize ≤ FileSystem.maxNameBytes
  whole : '\x00' ∉ key.toList

instance : DecidablePred FlatKey := fun key =>
  decidable_of_iff (isSafeName key = true ∧ pieces key = [key] ∧
    key.utf8ByteSize ≤ FileSystem.maxNameBytes ∧ '\x00' ∉ key.toList)
    ⟨fun ⟨safe, single, short, whole⟩ => ⟨safe, single, short, whole⟩,
      fun flat => ⟨flat.safe, flat.single, flat.short, flat.whole⟩⟩

variable {directory key : String} {fs : FileSystem}

/-- A plain path goes straight down. -/
theorem Plain.straight (plain : Plain directory) : Straight directory :=
  fun step member => ⟨(plain.named step member).goes, (plain.named step member).down⟩

/-- A few bytes more than the path to the directory still make no path too long. -/
theorem Plain.pathBytes_le (plain : Plain directory) {names : List String}
    (few : FileSystem.pathBytes names ≤ 1 + FileSystem.maxNameBytes) :
    FileSystem.pathBytes (steps directory ++ names) ≤ FileSystem.maxPathBytes := by
  rw [FileSystem.pathBytes_append]
  exact Nat.le_trans (Nat.add_le_add_left few _) plain.short

private theorem pathBytes_singleton_le {name : String} (named : PlainStep name) :
    FileSystem.pathBytes [name] ≤ 1 + FileSystem.maxNameBytes := by
  have short := named.short
  simpa [FileSystem.pathBytes] using short

namespace FlatKey

private theorem parts (flat : FlatKey key) : FileName.parts key = [key] ∧ key ≠ toolchainDir := by
  obtain ⟨-, -, first, rest, spelled, foreign⟩ := parts_of_isSafeName flat.safe
  have only : (first :: rest).Sublist [key] := by
    rw [← spelled, parts_eq, flat.single]
    exact List.filter_sublist
  obtain ⟨rfl, rfl⟩ : first = key ∧ rest = [] := by
    simpa using only.eq_of_length_le (Nat.succ_le_succ (Nat.zero_le rest.length))
  exact ⟨spelled, foreign⟩

private theorem plainStep (flat : FlatKey key) : PlainStep key where
  goes := by
    have kept : key ∈ FileName.parts key := by
      rw [flat.parts.1]
      exact List.mem_singleton.2 rfl
    rw [parts_eq] at kept
    exact (List.mem_filter.1 kept).2
  down := by
    rintro rfl
    refine (parts_of_isSafeName flat.safe).2.1 ?_
    rw [flat.single]
    exact List.mem_singleton.2 rfl
  short := flat.short
  whole := flat.whole

private theorem steps_join_eq (flat : FlatKey key) (plain : Plain directory) :
    steps (join directory key) = steps directory ++ [key] := by
  rw [steps_join (parts_of_isSafeName flat.safe).1 plain.straight, flat.single]

end FlatKey

/-- The project directory stands, and all that is below it are files right in it, none of them
under the name of the toolchain's directory. -/
structure Level (directory : String) (fs : FileSystem) : Prop extends Stands directory fs where
  files : ∀ name rest node, fs.get? (steps directory ++ name :: rest) = some node →
    rest = [] ∧ name ≠ toolchainDir ∧ node ≠ .directory

/-- A directory that is all there is has nothing below it. -/
theorem get?_withDirectory_below (directory name : String) (rest : List String) :
    (FileSystem.withDirectory directory).get? (steps directory ++ name :: rest) = none := by
  have bare := FileTree.reach_directories (steps directory) []
  rw [List.append_nil] at bare
  have nothing : (FileTree.directories []).child name = .empty := rfl
  rw [FileSystem.get?, FileSystem.root_withDirectory, FileTree.reach_append, bare,
    FileTree.reach_cons, nothing, FileTree.reach_empty]
  rfl

/-- A directory that is all there is stands, and it may be written to. -/
theorem level_withDirectory (plain : Plain directory) :
    Level directory (.withDirectory directory) := by
  refine ⟨stands_withDirectory plain.straight, fun name rest node found => ?_⟩
  rw [get?_withDirectory_below] at found
  cases found

/-- Putting something below the directory leaves the directory where it is. -/
theorem Stands.put (stands : Stands directory fs) (name : String) (rest : List String)
    (node : FileNode) : Stands directory (fs.put (steps directory ++ name :: rest) node) := by
  refine ⟨stands.straight, fun p leading => ?_⟩
  rw [FileSystem.get?_put_of_ne fs fun same => not_prefix_below (same ▸ leading)]
  exact stands.there p leading

private theorem Stands.find?_of_leading (stands : Stands directory fs) (plain : Plain directory)
    {part : List String} (leading : part <+: steps directory) :
    fs.find? part = some .directory :=
  FileSystem.find?_of_leading plain.named (Nat.le_trans (Nat.le_add_right _ _) plain.short)
    stands.there leading

namespace Level

/-- A file under a flat key is one more file right in the directory. -/
theorem put (level : Level directory fs) (flat : FlatKey key) (content : String) :
    Level directory (fs.put (steps directory ++ [key]) (.file content)) := by
  refine ⟨level.toStands.put key [] _, fun name rest node found => ?_⟩
  by_cases here : name :: rest = [key]
  · obtain ⟨rfl, rfl⟩ := List.cons.inj here
    rw [FileSystem.get?_put_self fs (by simp), Option.some.injEq] at found
    exact ⟨rfl, flat.parts.2, by rw [← found]; nofun⟩
  · rw [FileSystem.get?_put_of_ne fs fun same => here (List.append_cancel_left same)] at found
    exact level.files name rest node found

/-- Nothing is in the way of a flat key. -/
theorem run_writeEntry (level : Level directory fs) (plain : Plain directory)
    (flat : FlatKey key) (room : Nat) (content : String) :
    (writeEntry room directory key content).run.run fs =
      (.ok (), fs.put (steps directory ++ [key]) (.file content)) := by
  have spelled := flat.steps_join_eq plain
  refine run_writeEntry_of_located room flat.safe ?_ ?_ ?_ ?_
  · rw [spelled, parent_concat_of_plain plain.named]
    exact level.toStands.find?_of_leading plain (List.prefix_refl _)
  · rw [spelled, parent_concat_of_plain plain.named,
      level.toStands.find?_of_leading plain (FileSystem.leading_parent _), Option.isSome_some]
  · rw [spelled]
    exact locate_concat plain.named flat.plainStep
      (plain.pathBytes_le (pathBytes_singleton_le flat.plainStep)) level.there
  · intro directory
    exact (level.files key [] _ directory).2.2 rfl

private theorem run_writeEntries (level : Level directory fs) (plain : Plain directory) (room : Nat)
    {entries : List (String × SourceFile)} (flat : ∀ entry ∈ entries, FlatKey entry.1) :
    ∃ fs', (entries.forM fun (key, file) => writeEntry room directory key file.content).run.run
      fs = (.ok (), fs') ∧ Level directory fs' := by
  induction entries generalizing fs with
  | nil => exact ⟨fs, rfl, level⟩
  | cons entry rest ih =>
      obtain ⟨first, others⟩ := List.forall_mem_cons.1 flat
      obtain ⟨fs', written, level'⟩ := ih (level.put first entry.2.content) others
      refine ⟨fs', Eq.trans (FileSystem.run_forM_cons ?_ rest) written, level'⟩
      exact level.run_writeEntry plain first room entry.2.content

/-- Nothing is in the way of the toolchain's directory and of the build script in it. -/
theorem writeScript_eq_ok (level : Level directory fs) (plain : Plain directory) (room : Nat)
    (script : String) : ((writeScript room directory script).run.run fs).1 = .ok () := by
  have tools : PlainStep toolchainDir := by decide
  have own : PlainStep scriptName := by decide
  have spelled : steps (join directory toolchainDir) = steps directory ++ [toolchainDir] :=
    steps_join rfl plain.straight
  -- The directory is made first, and the script is written to a place in it where nothing is.
  let fs' := fs.put (steps directory ++ [toolchainDir]) .directory
  have made : (FileOp.ensureDirectories room (steps directory ++ [toolchainDir])).run.run fs =
      (.ok (), fs') := by
    have free : fs.get? (steps directory ++ [toolchainDir]) = none := by
      rw [Option.eq_none_iff_forall_ne_some]
      intro node found
      exact (level.files _ _ _ found).2.1 rfl
    rw [FileSystem.run_ensureDirectories_of_above room (by simp),
      FileSystem.run_ensureDirectory_of_free (locate_concat plain.named tools
        (plain.pathBytes_le (pathBytes_singleton_le tools)) level.there) free]
    rw [parent_concat_of_plain plain.named,
      level.toStands.find?_of_leading plain (List.prefix_refl _), Option.isSome_some]
  have located : fs'.locate (steps directory ++ [toolchainDir] ++ [scriptName]) =
      .ok (steps directory ++ [toolchainDir] ++ [scriptName]) := by
    refine locate_concat ?_ own ?_ fun p leading => ?_
    · rw [List.forall_mem_append, List.forall_mem_singleton]
      exact ⟨plain.named, tools⟩
    · rw [List.append_assoc]
      exact plain.pathBytes_le (by decide)
    · rcases List.prefix_concat_iff.1 leading with rfl | above
      · exact FileSystem.get?_put_self fs (by simp) _
      · exact (level.toStands.put toolchainDir [] _).there p above
  have free : fs'.get? (steps directory ++ [toolchainDir] ++ [scriptName]) ≠ some .directory := by
    rw [FileSystem.get?_put_of_ne fs (by simp), List.append_assoc]
    intro found
    cases (level.files _ _ _ found).1
  simp only [writeScript, spelled, FileSystem.run_bind, run_ofFileOp, made]
  change (Except.mapError _ ((FileOp.writeFile _ _).run.run fs').1) = _
  rw [FileSystem.run_writeFile_of_located located free]
  rfl

end Level

/-- **A flat project is written without an error.** -/
theorem writeFresh_of_flat (plain : Plain directory) (room : Nat) (script : String)
    {files : SourceSet} (flat : ∀ key ∈ files.names, FlatKey key) :
    (writeFresh room directory script files).1 = .ok () := by
  have keys : ∀ entry ∈ files.entries, FlatKey entry.1 :=
    fun entry member => flat entry.1 (List.mem_map.2 ⟨entry, member, rfl⟩)
  obtain ⟨fs', written, level⟩ := (level_withDirectory plain).run_writeEntries plain room keys
  unfold writeFresh write
  rw [FileSystem.run_bind, written]
  exact level.writeScript_eq_ok plain room script

end Project

end WebPreview
