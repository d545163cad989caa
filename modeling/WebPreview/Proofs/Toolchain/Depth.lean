import WebPreview.Proofs.Toolchain.Written
import WebPreview.Toolchain.Build

/-! # How deep a project lies

The project directory is removed by calls inside one another, one for each directory on the way
down. It can be removed exactly if no directory in it is farther down than there is room for such
calls (`WebPreview.Toolchain.remove_project`). That is so for every source set whose keys name no
more directories than that, one in the other (`WebPreview.Toolchain.clears_of_shallow`), and for no
other one that was written (`WebPreview.Toolchain.shallow_of_clears`).
-/

namespace WebPreview

namespace Project

open FileSystem (Changes Grown steps)

/-- Whatever writing a project puts into the files, it puts in one after the other. -/
theorem grown_write (room : Nat) (directory script : String) (files : SourceSet)
    (fs : FileSystem) :
    Grown (fun _ _ => True) fs ((write room directory script files).run.run fs).2 := by
  have directories (steps : List String) (fs : FileSystem) :
      Changes (fun _ _ => True) fs (FileOp.ensureDirectories room steps) :=
    FileSystem.changes_ensureDirectories room fun _ _ => .inl trivial
  have file (steps : List String) (content : String) (fs : FileSystem) :
      Changes (fun _ _ => True) fs (FileOp.writeFile steps content) :=
    FileSystem.changes_writeFile trivial
  refine Changes.bind (Changes.forM (fun _ _ _ _ => trivial) ?_ trivial) fun _ fs' _ => ?_
  · intro entry _ fs' _
    exact changes_writeEntry_of_safe (fun _ => directories _ fs') fun _ fs'' _ =>
      file _ entry.2.content fs''
  · exact Changes.bind (changes_ofFileOp (directories _ fs'))
      fun _ fs'' _ => changes_ofFileOp (file _ script fs'')

/-- A place below a project directory, where a directory is no farther down than a bound. -/
def Near (directory : String) (bound : Nat) (p : Path) (node : FileNode) : Prop :=
  ∃ q, p = steps directory ++ q ∧ q ≠ [] ∧ (node = .directory → q.length ≤ bound)

variable {directory : String} {bound : Nat}

private theorem Near.inside {p : Path} {node : FileNode} (near : Near directory bound p node) :
    Inside directory p := by
  obtain ⟨q, place, below, -⟩ := near
  obtain ⟨name, rest, rfl⟩ := List.exists_cons_of_ne_nil below
  exact ⟨name, rest, place⟩

/-- A safe key needs no directory that is farther down than it names directories. -/
theorem permits_near {key : String} (safe : isSafeName key = true)
    (straight : Straight directory) (shallow : (above key).length ≤ bound) (content : String) :
    Permits (Near directory bound) directory key content := by
  obtain ⟨relative, down, first, rest, parts, -⟩ := parts_of_isSafeName safe
  have spelled := steps_join relative straight
  constructor
  · intro part leading
    have among : part <+: steps directory ++ (pieces key).dropLast := by
      have short := leading.trans (FileSystem.leading_parent_dropLast _)
      rwa [spelled, List.dropLast_append_of_ne_nil (pieces_ne_nil safe)] at short
    have descends : ".." ∉ (pieces key).dropLast := fun member =>
      down (List.dropLast_subset _ member)
    refine (follow_part straight descends among).imp_right ?_
    rintro ⟨name, others, place, within⟩
    exact ⟨name :: others, place, List.cons_ne_nil _ _, fun _ =>
      Nat.le_trans within.length_le shallow⟩
  · rw [spelled, follow_below straight down, ← parts_eq, parts]
    exact ⟨first :: rest, rfl, List.cons_ne_nil _ _, nofun⟩

end Project

namespace Toolchain

/-- The files with the project directory among them, as writing a source set leaves them. -/
def project (t : Toolchain) (files : SourceSet) : FileSystem :=
  (Project.writeFresh t.depths.make t.directory t.script files).2

/-- Once the source set is written, no directory in the project is farther down than there is room
for calls to remove it. -/
def Clears (t : Toolchain) (files : SourceSet) : Prop :=
  ∀ q, (t.project files).get? (FileSystem.steps t.directory ++ q) = some .directory →
    q.length ≤ t.depths.remove

/-- No key names more directories, one in the other, than there is room for calls to remove
them. -/
def Shallow (t : Toolchain) (files : SourceSet) : Prop :=
  ∀ key ∈ files.names, (Project.above key).length ≤ t.depths.remove

variable (t : Toolchain) (files : SourceSet)

private theorem clears_iff_height_le :
    t.Clears files ↔
      ((t.project files).root.reach (FileSystem.steps t.directory)).height ≤ t.depths.remove := by
  have start : (FileSystem.withDirectory t.directory).root.Distinct := by
    rw [FileSystem.root_withDirectory]
    exact .directories _
  have distinct : (t.project files).root.Distinct := (Project.grown_write _ _ _ _ _).distinct start
  rw [(distinct.reach _).height_le_iff, Clears]
  refine forall_congr' fun q => ?_
  rw [FileSystem.get?, FileTree.reach_append]
  constructor
  · exact fun near _ => near
  · intro near found
    by_cases below : q = []
    · rw [below]
      exact Nat.zero_le _
    · exact near below found

instance : Decidable (t.Clears files) := decidable_of_iff' _ (t.clears_iff_height_le files)

/-- The project is removed if there is room for that, and otherwise that is what is raised. -/
theorem remove_project :
    Project.remove t.depths.remove t.directory (t.project files) =
      if t.Clears files then .ok ()
      else .error (.other "RecursionError" "maximum recursion depth exceeded") := by
  unfold Project.remove FileOp.removeTree
  rw [Project.run_ofFileOp, FileSystem.run_getThe_bind]
  by_cases clears : t.Clears files
  · have low := Nat.not_lt.2 ((t.clears_iff_height_le files).1 clears)
    rw [if_pos clears, if_neg low]
    rfl
  · have high := Nat.not_le.1 (mt (t.clears_iff_height_le files).2 clears)
    rw [if_neg clears, if_pos high]
    rfl

/-- Where the directories that some key names are there, one in the other, the project cannot be
removed if there are more of them than there is room for. -/
theorem not_clears_of_above (key : String) (deep : t.depths.remove < (Project.above key).length)
    (there : (t.project files).HasKind (FileSystem.steps t.directory ++ Project.above key) true) :
    ¬t.Clears files := fun clears =>
  absurd (clears _ (FileSystem.hasKind_directory_iff.1 there)) (Nat.not_le.2 deep)

/-- There is room to remove what a shallow source set is written to. The toolchain's own directory
counts, too. -/
theorem clears_of_shallow (straight : Project.Straight t.directory) (own : 1 ≤ t.depths.remove)
    (shallow : t.Shallow files) : t.Clears files := by
  rw [clears_iff_height_le]
  have stands := Project.stands_withDirectory straight
  have grown : FileSystem.Grown (Project.Near t.directory t.depths.remove)
      (.withDirectory t.directory) (t.project files) := by
    refine Project.changes_write (fun _ _ => Project.Near.inside) stands ?_ ?_ ?_
    · intro entry member safe
      exact Project.permits_near safe straight (shallow _ (List.mem_map_of_mem member)) _
    · exact ⟨[Project.toolchainDir], rfl, List.cons_ne_nil _ _, fun _ => own⟩
    · exact ⟨[Project.toolchainDir, Project.scriptName], rfl, List.cons_ne_nil _ _, nofun⟩
  refine grown.height_le (fun place node near => near) ?_
  have empty : ((FileSystem.withDirectory t.directory).root.reach
      (FileSystem.steps t.directory)).height = 0 := by
    have whole := FileTree.reach_directories (FileSystem.steps t.directory) []
    rw [List.append_nil] at whole
    rw [FileSystem.root_withDirectory, whole]
    rfl
  rw [empty]
  exact Nat.zero_le _

/-- There is no room to remove a source set that was written and is not shallow. -/
theorem shallow_of_clears (straight : Project.Straight t.directory)
    (written : (Project.writeFresh t.depths.make t.directory t.script files).1 = .ok ())
    (clears : t.Clears files) : t.Shallow files := by
  intro key member
  obtain ⟨entry, here, rfl⟩ := List.mem_map.1 member
  obtain ⟨safe, -, above⟩ := Project.hasKind_of_writeFresh (Prod.ext written rfl) here
  obtain ⟨step, spelled, place⟩ := Project.follow_above safe straight
  have there := above _ step spelled
  rw [place] at there
  exact Nat.not_lt.1 fun deep => t.not_clears_of_above files _ deep there clears

end Toolchain

end WebPreview
