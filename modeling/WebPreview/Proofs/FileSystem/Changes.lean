import WebPreview.FileSystem
import WebPreview.Proofs.FileSystem.Trees

/-! # What operations on files change

Wherever a written path can be followed, it leads to the place that its steps spell
out (`WebPreview.FileSystem.eq_follow_of_walk`). An operation therefore puts something
only to the places that its path and the leading parts of it spell out, whether
it succeeds or fails half way (`WebPreview.FileSystem.changes_ensureDirectories`,
`WebPreview.FileSystem.changes_writeFile`), and so does a sequence of operations
(`WebPreview.FileSystem.Changes.bind`). What was put in tells which places have changed
(`WebPreview.FileSystem.Grown.changed`) and how high the tree may have become
(`WebPreview.FileSystem.Grown.height_le`).
-/

namespace WebPreview

namespace FileSystem

private theorem put_nil (fs : FileSystem) (node : FileNode) : fs.put [] node = fs := rfl

private theorem root_put (fs : FileSystem) {p : Path} (below : p ≠ []) (node : FileNode) :
    (fs.put p node).root =
      FileTree.graft (.place (some node) (fs.root.reach p).children) p fs.root := by
  cases p with
  | nil => exact absurd rfl below
  | cons name rest => rfl

/-- A node that is put leaves every other place. -/
theorem get?_put_of_ne (fs : FileSystem) {p q : Path} (other : q ≠ p) (node : FileNode) :
    (fs.put p node).get? q = fs.get? q := by
  by_cases root : p = []
  · rw [root, put_nil]
  · rw [get?, root_put fs root, FileTree.content?_reach_graft_of_ne _ _ other]
    rfl

/-- A node that is put below the root is found there. -/
theorem get?_put_self (fs : FileSystem) {p : Path} (below : p ≠ []) (node : FileNode) :
    (fs.put p node).get? p = some node := by
  have found := FileTree.reach_graft_append (.place (some node) (fs.root.reach p).children) p []
    fs.root
  rw [List.append_nil] at found
  rw [get?, root_put fs below, found]
  rfl

/-- A file system made for a directory has the directories on the way to it, and no more. -/
theorem root_withDirectory (path : String) :
    (withDirectory path).root = FileTree.directories (steps path) := by
  rw [withDirectory, root]
  cases steps path <;> rfl

/-- Putting something below a place, and nothing above, leaves what is there within a height that
the way from there to a new directory does not go beyond. -/
theorem height_put_le {fs : FileSystem} {p q : Path} {node : FileNode} {bound : Nat}
    (below : q ≠ []) (low : (fs.root.reach p).height ≤ bound)
    (short : node = .directory → q.length ≤ bound) :
    ((fs.put (p ++ q) node).root.reach p).height ≤ bound := by
  rw [root_put fs (List.append_ne_nil_of_right_ne_nil p below), FileTree.graft_append,
    FileTree.reach_append]
  have found := FileTree.reach_graft_append (FileTree.graft
    (.place (some node) ((fs.root.reach p).reach q).children) q (fs.root.reach p)) p [] fs.root
  rw [List.append_nil] at found
  rw [found]
  exact FileTree.height_graft_le low short

/-- The place that steps spell out from another one. -/
def follow : Path → List String → Path
  | here, [] => here
  | here, step :: rest =>
    if step = "" || step = "." then follow here rest
    else if step = ".." then follow here.dropLast rest
    else follow (here ++ [step]) rest

/-- The step goes somewhere, up or down. -/
def moves (step : String) : Bool := step != "" && step != "."

/-- Steps that do not lead up lead down through every one that moves. -/
theorem follow_of_no_up {steps : List String} (down : ".." ∉ steps) (here : Path) :
    follow here steps = here ++ steps.filter moves := by
  induction steps generalizing here with
  | nil => exact (List.append_nil here).symm
  | cons step rest ih =>
      have below : ".." ∉ rest := fun member => down (List.mem_cons_of_mem _ member)
      have other : step ≠ ".." := fun same => down (same ▸ List.mem_cons_self)
      unfold follow
      by_cases goes : moves step = true
      · have named : ¬(decide (step = "") || decide (step = ".")) = true := by
          simpa [moves] using goes
        rw [if_neg named, if_neg other, List.filter_cons, if_pos goes, ih below, List.append_assoc,
          List.singleton_append]
      · have stays : (decide (step = "") || decide (step = ".")) = true := by
          simpa [moves, Classical.or_iff_not_imp_left] using goes
        rw [if_pos stays, List.filter_cons, if_neg goes, ih below]

/-- A path that can be followed leads where its steps spell out. -/
theorem eq_follow_of_walk {fs : FileSystem} {here : List String} {found : FileTree} {p : Path}
    {steps : List String} (walked : walk fs here found steps = .ok p) :
    p = follow here.reverse steps := by
  induction steps generalizing here found with
  | nil => exact (Except.ok.inj walked).symm
  | cons step rest ih =>
      unfold walk at walked
      unfold follow
      split at walked
      · cases walked
      · cases walked
      · split at walked
        · next stays =>
          rw [if_pos stays]
          exact ih walked
        · next goes =>
          rw [if_neg goes]
          split at walked
          · next up =>
            rw [if_pos up, List.dropLast_reverse]
            exact ih walked
          · next down =>
            rw [if_neg down, ← List.reverse_cons]
            split at walked
            · cases walked
            · exact ih walked

/-- A place that is located was followed to from the root. -/
theorem walk_of_locate {fs : FileSystem} {p : Path} {steps : List String}
    (located : fs.locate steps = .ok p) : walk fs [] fs.root steps = .ok p := by
  unfold locate at located
  split at located
  · cases located
  · split at located
    · cases located
    · exact located

/-- A place that is located is where its steps lead from the root. -/
theorem eq_follow_of_locate {fs : FileSystem} {p : Path} {steps : List String}
    (located : fs.locate steps = .ok p) : p = follow [] steps :=
  eq_follow_of_walk (walk_of_locate located)

/-- Between two states, every place was left as it was or has something that is
allowed there. -/
def Changed (allowed : Path → FileNode → Prop) (before after : FileSystem) : Prop :=
  ∀ p, after.get? p = before.get? p ∨ ∃ node, allowed p node ∧ after.get? p = some node

namespace Changed

variable {allowed : Path → FileNode → Prop} {before middle after : FileSystem}

private theorem refl (fs : FileSystem) : Changed allowed fs fs := fun _ => .inl rfl

private theorem trans (first : Changed allowed before middle)
    (second : Changed allowed middle after) :
    Changed allowed before after := by
  intro p
  rcases second p with same | changed
  · rw [same]
    exact first p
  · exact .inr changed

private theorem put {p : Path} {node : FileNode} (here : allowed p node) (fs : FileSystem) :
    Changed allowed fs (fs.put p node) := by
  intro q
  by_cases same : q = p
  · subst same
    by_cases root : q = []
    · exact .inl (by rw [root, put_nil])
    · exact .inr ⟨node, here, get?_put_self fs root node⟩
  · exact .inl (get?_put_of_ne fs same node)

/-- What is there stays there, as itself or as something else. -/
theorem isSome (changed : Changed allowed before after) {p : Path}
    (there : (before.get? p).isSome) : (after.get? p).isSome := by
  rcases changed p with same | ⟨node, -, found⟩
  · rwa [same]
  · rw [found, Option.isSome_some]

/-- A place where nothing is allowed stays as it is. -/
theorem get?_eq (changed : Changed allowed before after) {p : Path}
    (closed : ∀ node, ¬allowed p node) : after.get? p = before.get? p :=
  (changed p).resolve_right fun ⟨node, here, _⟩ => closed node here

end Changed

/-- The later state comes from the earlier one by putting in, one after the other, things that are
allowed where they are put. -/
inductive Grown (allowed : Path → FileNode → Prop) (before : FileSystem) : FileSystem → Prop
  | refl : Grown allowed before before
  | put {fs : FileSystem} {p : Path} {node : FileNode} (earlier : Grown allowed before fs)
    (here : allowed p node) : Grown allowed before (fs.put p node)

namespace Grown

variable {allowed : Path → FileNode → Prop} {before middle after : FileSystem}

private theorem trans (first : Grown allowed before middle) (second : Grown allowed middle after) :
    Grown allowed before after := by
  induction second with
  | refl => exact first
  | put _ here ih => exact .put ih here

/-- A file system that only grew has changed in no other way. -/
theorem changed (grown : Grown allowed before after) : Changed allowed before after := by
  induction grown with
  | refl => exact .refl before
  | put _ here ih => exact ih.trans (.put here _)

/-- Putting things in uses no name twice. -/
theorem distinct (grown : Grown allowed before after) (start : before.root.Distinct) :
    after.root.Distinct := by
  induction grown with
  | refl => exact start
  | @put fs p node _ _ ih =>
      by_cases root : p = []
      · rw [root, put_nil]
        exact ih
      · rw [root_put fs root]
        exact .graft ((ih.reach p).withContent _) p ih

/-- Where everything is put in below a place, the height there stays within a bound that no way
from there to an allowed directory goes beyond. -/
theorem height_le {p : Path} {bound : Nat} (grown : Grown allowed before after)
    (inside : ∀ place node, allowed place node →
      ∃ q, place = p ++ q ∧ q ≠ [] ∧ (node = .directory → q.length ≤ bound))
    (low : (before.root.reach p).height ≤ bound) : (after.root.reach p).height ≤ bound := by
  induction grown with
  | refl => exact low
  | put _ here ih =>
      obtain ⟨q, rfl, below, short⟩ := inside _ _ here
      exact height_put_le below ih short

end Grown

section Operations

variable {ε α β : Type} {allowed : Path → FileNode → Prop} {fs : FileSystem}

/-- An operation that ends well is followed by the next one, on the tree as it is
then; one that fails ends the sequence. -/
theorem run_bind (op : ExceptT ε (StateM FileSystem) α)
    (next : α → ExceptT ε (StateM FileSystem) β) (fs : FileSystem) :
    (op >>= next).run.run fs = match op.run.run fs with
      | (.ok a, fs') => (next a).run.run fs'
      | (.error e, fs') => (.error e, fs') := by
  rw [ExceptT.run_bind, StateT.run_bind]
  rcases op.run.run fs with ⟨_ | _, _⟩ <;> rfl

/-- What is done for the first item and ends well is followed by what is done for the others. -/
theorem run_forM_cons {step : β → ExceptT ε (StateM FileSystem) Unit} {x : β} {fs' : FileSystem}
    (ran : (step x).run.run fs = (.ok (), fs')) (rest : List β) :
    ((x :: rest).forM step).run.run fs = (rest.forM step).run.run fs' := by
  rw [List.forM_eq_forM, List.forM_cons, run_bind, ran]

/-- An operation that looks at the tree goes on with the tree as it is. -/
theorem run_getThe_bind (next : FileSystem → FileOp α) (fs : FileSystem) :
    (getThe FileSystem >>= next).run.run fs = (next fs).run.run fs := rfl

/-- The operation leaves a tree behind into which only what is allowed was put. -/
def Changes (allowed : Path → FileNode → Prop) (fs : FileSystem)
    (op : ExceptT ε (StateM FileSystem) α) : Prop :=
  Grown allowed fs (op.run.run fs).2

/-- Doing nothing changes nothing. -/
theorem Changes.pure (a : α) :
    Changes allowed fs (Pure.pure a : ExceptT ε (StateM FileSystem) α) :=
  .refl

/-- The changes of a sequence are allowed if those of its first step are, and those of its second
step from whatever the first one leaves. -/
theorem Changes.bind {op : ExceptT ε (StateM FileSystem) α}
    {next : α → ExceptT ε (StateM FileSystem) β} (first : Changes allowed fs op)
    (second : ∀ a fs', Grown allowed fs fs' → Changes allowed fs' (next a)) :
    Changes allowed fs (op >>= next) := by
  unfold Changes at first ⊢
  rw [run_bind]
  rcases ran : op.run.run fs with ⟨result, fs'⟩
  rw [ran] at first
  cases result with
  | ok a => exact first.trans (second a fs' first)
  | error e => exact first

/-- What is done for one item after the other makes allowed changes if it does so for each item,
wherever something holds that allowed changes keep. -/
theorem Changes.forM {holds : FileSystem → Prop}
    (kept : ∀ before after, holds before → Grown allowed before after → holds after)
    {step : β → ExceptT ε (StateM FileSystem) Unit} {xs : List β}
    (each : ∀ x ∈ xs, ∀ fs, holds fs → Changes allowed fs (step x)) (here : holds fs) :
    Changes allowed fs (xs.forM step) := by
  induction xs generalizing fs with
  | nil => exact .pure ()
  | cons x rest ih =>
      obtain ⟨first, others⟩ := List.forall_mem_cons.1 each
      exact Changes.bind (first fs here) fun _ fs' grown => ih others (kept fs fs' here grown)

/-- Locating a place changes nothing, and its error names the place. -/
theorem run_locate (steps : List String) (fs : FileSystem) :
    (FileOp.locate steps).run.run fs = match fs.locate steps with
      | .ok p => (.ok p, fs)
      | .error cause => (.error ⟨cause, written steps⟩, fs) := by
  unfold FileOp.locate
  rw [run_getThe_bind]
  cases fs.locate steps <;> rfl

/-- Finding a place and then doing something there. -/
theorem changes_at {steps : List String} {next : Path → FileOp α}
    (there : Changes allowed fs (next (follow [] steps))) :
    Changes allowed fs (FileOp.locate steps >>= next) := by
  unfold Changes at there ⊢
  rw [run_bind, run_locate]
  cases found : fs.locate steps with
  | ok p =>
      obtain rfl := eq_follow_of_locate found
      exact there
  | error cause => exact .refl

/-- Making a directory changes its own place at most, and that only if nothing is
there. -/
theorem changes_makeDirectory {steps : List String}
    (here : allowed (follow [] steps) .directory ∨ (fs.get? (follow [] steps)).isSome) :
    Changes allowed fs (FileOp.makeDirectory steps) := by
  refine changes_at ?_
  unfold Changes
  rw [run_getThe_bind]
  cases there : fs.get? (follow [] steps) with
  | some node => exact .refl
  | none =>
      rw [there] at here
      exact .put .refl (here.resolve_right (by simp))

private theorem changes_ensureDirectory {steps : List String}
    (here : allowed (follow [] steps) .directory ∨ (fs.get? (follow [] steps)).isSome) :
    Changes allowed fs (FileOp.ensureDirectory steps) := by
  unfold Changes FileOp.ensureDirectory
  rw [run_getThe_bind]
  split
  · exact .refl
  · exact changes_makeDirectory here

/-- The parent of a place leads it without its last step. -/
theorem leading_parent_dropLast (steps : List String) : parent steps <+: steps.dropLast := by
  rw [parent, ← List.reverse_suffix, List.reverse_reverse]
  exact List.dropWhile_suffix _

/-- The parent of a place leads it. -/
theorem leading_parent (steps : List String) : parent steps <+: steps :=
  (leading_parent_dropLast steps).trans (List.dropLast_prefix steps)

/-- Making a directory and those it is in changes the places of the path and of its
leading parts at most, and those only where nothing is there. -/
theorem changes_ensureDirectories {steps : List String} (room : Nat)
    (here : ∀ part, part <+: steps →
      allowed (follow [] part) .directory ∨ (fs.get? (follow [] part)).isSome) :
    Changes allowed fs (FileOp.ensureDirectories room steps) := by
  have last {steps : List String} {fs' : FileSystem} (grown : Grown allowed fs fs')
      (here : ∀ part, part <+: steps →
        allowed (follow [] part) .directory ∨ (fs.get? (follow [] part)).isSome) :
      Changes allowed fs' (FileOp.ensureDirectory steps) :=
    changes_ensureDirectory ((here steps (List.prefix_refl _)).imp_right grown.changed.isSome)
  induction room generalizing steps with
  | zero =>
      cases steps with
      | nil => exact .pure ()
      | cons step rest =>
          unfold FileOp.ensureDirectories Changes
          rw [run_getThe_bind]
          split
          · exact .refl
          · exact last .refl here
  | succ room ih =>
      cases steps with
      | nil => exact .pure ()
      | cons step rest =>
          have above : Changes allowed fs (FileOp.ensureDirectories room (parent (step :: rest))) :=
            ih fun part leading => here part (leading.trans (leading_parent _))
          unfold FileOp.ensureDirectories Changes
          rw [run_getThe_bind]
          split
          · refine Changes.bind above fun _ fs' grown => ?_
            split
            · exact .pure ()
            · exact last grown here
          · exact last .refl here

/-- Writing a file changes its own place at most. -/
theorem changes_writeFile {steps : List String} {content : String}
    (here : allowed (follow [] steps) (.file content)) :
    Changes allowed fs (FileOp.writeFile steps content) := by
  refine changes_at ?_
  unfold Changes
  rw [run_getThe_bind]
  split
  · exact .refl
  · exact .put .refl here

/-- Where the directory above is there, only the last one may have to be made. -/
theorem run_ensureDirectories_of_above {steps : List String} (room : Nat) (below : steps ≠ [])
    (above : (fs.find? (parent steps)).isSome) :
    (FileOp.ensureDirectories room steps).run.run fs =
      (FileOp.ensureDirectory steps).run.run fs := by
  have known : ¬(fs.find? (parent steps)).isNone = true := by
    rw [Option.isNone_eq_false_iff.2 above]
    exact Bool.false_ne_true
  cases steps with
  | nil => exact absurd rfl below
  | cons step rest =>
      cases room with
      | zero =>
          unfold FileOp.ensureDirectories
          rw [run_getThe_bind, if_neg known]
      | succ room =>
          unfold FileOp.ensureDirectories
          rw [run_getThe_bind, if_neg known]

/-- Where the directory above is missing, it is made first, by a call inside. -/
theorem run_ensureDirectories_of_missing {steps : List String} (room : Nat) (below : steps ≠ [])
    (above : fs.find? (parent steps) = none) (named : steps.getLast? ≠ some ".") :
    (FileOp.ensureDirectories (room + 1) steps).run.run fs =
      (FileOp.ensureDirectories room (parent steps) >>= fun _ =>
        FileOp.ensureDirectory steps).run.run fs := by
  cases steps with
  | nil => exact absurd rfl below
  | cons step rest =>
      rw [FileOp.ensureDirectories.eq_3 _ _ below, run_getThe_bind, above]
      simp only [Option.isNone_none, ↓reduceIte, named]

private theorem run_ensureDirectory_of_there {steps : List String}
    (there : fs.find? steps = some .directory) :
    (FileOp.ensureDirectory steps).run.run fs = (.ok (), fs) := by
  unfold FileOp.ensureDirectory
  rw [run_getThe_bind, there]
  rfl

/-- A directory is made where nothing is yet. -/
theorem run_ensureDirectory_of_free {steps : List String} {p : Path}
    (located : fs.locate steps = .ok p) (free : fs.get? p = none) :
    (FileOp.ensureDirectory steps).run.run fs = (.ok (), fs.put p .directory) := by
  have missing : fs.find? steps = none := by simp only [find?, located, free]
  have made : (FileOp.makeDirectory steps).run.run fs = (.ok (), fs.put p .directory) := by
    unfold FileOp.makeDirectory
    rw [run_bind, run_locate, located]
    simp only
    rw [run_getThe_bind, free]
    rfl
  unfold FileOp.ensureDirectory
  rw [run_getThe_bind, missing]
  exact made

/-- A directory that is there, as the one above it is, needs no making. -/
theorem run_ensureDirectories_of_there {steps : List String} (room : Nat)
    (there : fs.find? steps = some .directory) (above : (fs.find? (parent steps)).isSome) :
    (FileOp.ensureDirectories room steps).run.run fs = (.ok (), fs) := by
  by_cases below : steps = []
  · subst below
    unfold FileOp.ensureDirectories
    rfl
  · rw [run_ensureDirectories_of_above room below above, run_ensureDirectory_of_there there]

/-- A file is written to a place that is no directory. -/
theorem run_writeFile_of_located {steps : List String} {p : Path} {content : String}
    (located : fs.locate steps = .ok p) (free : fs.get? p ≠ some .directory) :
    (FileOp.writeFile steps content).run.run fs = (.ok (), fs.put p (.file content)) := by
  unfold FileOp.writeFile
  rw [run_bind, run_locate, located]
  simp only
  rw [run_getThe_bind]
  split
  · next directory => exact absurd directory free
  · rfl

end Operations

end FileSystem

end WebPreview
