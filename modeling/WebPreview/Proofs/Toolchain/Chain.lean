import Mathlib.Data.List.Basic
import Mathlib.Data.List.Induction
import WebPreview.Proofs.Selection.Resolve
import WebPreview.Proofs.Toolchain.Depth
import WebPreview.Proofs.Toolchain.Flat

/-! # Directories one in the other

Making a directory makes those it is in by calls inside one another, as long as there is room for
them (`WebPreview.FileSystem.run_ensureDirectories_of_free`). A second key may go on where the
first one ended, so that there is room to make what there is no room to remove
(`WebPreview.Toolchain.not_clears_chained`).
-/

namespace WebPreview

namespace FileSystem

variable {base names : List String} {fs : FileSystem}

private theorem find?_of_free (plain : ∀ step ∈ base ++ names, PlainStep step)
    (free : fs.get? (base ++ names) = none) : fs.find? (base ++ names) = none := by
  unfold find?
  cases located : fs.locate (base ++ names) with
  | error cause => rfl
  | ok p =>
      have down : ".." ∉ base ++ names := fun member => (plain _ member).down rfl
      have straight : (base ++ names).filter moves = base ++ names :=
        List.filter_eq_self.2 fun step member => (plain step member).goes
      obtain rfl := eq_follow_of_locate located
      rw [follow_of_no_up down, List.nil_append, straight]
      exact free

private theorem run_ensureDirectories_concat {steps : List String} {last : String}
    {fs₁ : FileSystem} {room : Nat} (plain : ∀ step ∈ steps, PlainStep step)
    (named : PlainStep last) (missing : fs.find? steps = none)
    (ran : (FileOp.ensureDirectories room steps).run.run fs = (.ok (), fs₁)) :
    (FileOp.ensureDirectories (room + 1) (steps ++ [last])).run.run fs =
      (FileOp.ensureDirectory (steps ++ [last])).run.run fs₁ := by
  have above := parent_concat_of_plain plain last
  have last_named : (steps ++ [last]).getLast? ≠ some "." := by
    rw [List.getLast?_concat]
    rintro ⟨⟩
    exact absurd named (by decide)
  rw [← above] at missing
  rw [run_ensureDirectories_of_missing room (by simp) missing last_named, run_bind, above, ran]

private theorem run_ensureDirectory_concat {steps : List String} {last : String}
    (plain : ∀ step ∈ steps, PlainStep step) (named : PlainStep last)
    (short : pathBytes (steps ++ [last]) ≤ maxPathBytes)
    (there : ∀ p, p <+: steps → fs.get? p = some .directory)
    (free : fs.get? (steps ++ [last]) = none) :
    ∃ fs', (FileOp.ensureDirectory (steps ++ [last])).run.run fs = (.ok (), fs') ∧
      (∀ p, p <+: steps ++ [last] → fs'.get? p = some .directory) ∧
      ∀ p, ¬p <+: steps ++ [last] → fs'.get? p = fs.get? p := by
  refine ⟨fs.put (steps ++ [last]) .directory, ?_, fun p leading => ?_, fun p apart => ?_⟩
  · exact run_ensureDirectory_of_free (locate_concat plain named short there) free
  · rcases List.prefix_concat_iff.1 leading with rfl | among
    · exact get?_put_self fs (by simp) _
    · have other : p ≠ steps ++ [last] := by
        rintro rfl
        exact Project.not_prefix_below among
      rw [get?_put_of_ne fs other]
      exact there p among
  · have other : p ≠ steps ++ [last] := by
      rintro rfl
      exact apart (List.prefix_refl _)
    exact get?_put_of_ne fs other _

/-- Directories none of which is there yet are made one in the other. There has to be room for a
call for each of them but one. -/
theorem run_ensureDirectories_of_free (plain : ∀ step ∈ base ++ names, PlainStep step)
    (short : pathBytes (base ++ names) ≤ maxPathBytes)
    (there : ∀ p, p <+: base → fs.get? p = some .directory)
    (free : ∀ p, p <+: names → p ≠ [] → fs.get? (base ++ p) = none) (room : Nat)
    (enough : names.length ≤ room + 1) :
    ∃ fs', (FileOp.ensureDirectories room (base ++ names)).run.run fs = (.ok (), fs') ∧
      (∀ p, p <+: base ++ names → fs'.get? p = some .directory) ∧
      ∀ p, ¬p <+: base ++ names → fs'.get? p = fs.get? p := by
  induction names using List.reverseRecOn generalizing room with
  | nil =>
      rw [List.append_nil] at plain short ⊢
      refine ⟨fs, run_ensureDirectories_of_there room ?_ ?_, there, fun _ _ => rfl⟩
      · exact find?_of_leading plain short there (List.prefix_refl base)
      · rw [find?_of_leading plain short there (leading_parent base), Option.isSome_some]
  | append_singleton names last ih =>
      rw [← List.append_assoc] at plain short ⊢
      obtain ⟨others, named⟩ := List.forall_mem_append.1 plain
      have named : PlainStep last := named last (List.mem_singleton.2 rfl)
      have fits : pathBytes (base ++ names) ≤ maxPathBytes := by
        rw [pathBytes_append] at short
        exact Nat.le_trans (Nat.le_add_right _ _) short
      -- Up to the last name the directories are there, or they are made by the call inside.
      obtain ⟨fs₁, reached, made, kept⟩ : ∃ fs₁,
          (FileOp.ensureDirectories room (base ++ names ++ [last])).run.run fs =
            (FileOp.ensureDirectory (base ++ names ++ [last])).run.run fs₁ ∧
          (∀ p, p <+: base ++ names → fs₁.get? p = some .directory) ∧
          ∀ p, ¬p <+: base ++ names → fs₁.get? p = fs.get? p := by
        by_cases none : names = []
        · subst none
          rw [List.append_nil] at others fits ⊢
          refine ⟨fs, run_ensureDirectories_of_above room (by simp) ?_, there, fun _ _ => rfl⟩
          rw [parent_concat_of_plain others,
            find?_of_leading others fits there (List.prefix_refl base), Option.isSome_some]
        · obtain ⟨room, rfl⟩ : ∃ less, room = less + 1 := by
            have some_name := List.length_pos_iff.2 none
            rw [List.length_append, List.length_singleton] at enough
            exact ⟨room - 1, by omega⟩
          have missing := find?_of_free others (free names (List.prefix_append names _) none)
          obtain ⟨fs₁, ran, made, kept⟩ := ih others fits
            (fun p leading => free p (leading.trans (List.prefix_append names _))) room
            (by simpa using enough)
          exact ⟨fs₁, run_ensureDirectories_concat others named missing ran, made, kept⟩
      have beyond : ¬base ++ names ++ [last] <+: base ++ names := Project.not_prefix_below
      have empty : fs₁.get? (base ++ names ++ [last]) = none := by
        rw [kept _ beyond, List.append_assoc]
        exact free _ (List.prefix_refl _) (by simp)
      obtain ⟨fs', ran, made', kept'⟩ := run_ensureDirectory_concat others named short made empty
      refine ⟨fs', reached.trans ran, made', fun p apart => ?_⟩
      rw [kept' p apart]
      exact kept p fun among => apart (among.trans (List.prefix_append _ _))

end FileSystem

namespace Project

open FileSystem (PlainStep parent_concat_of_plain pathBytes pathBytes_append steps)

/-- The key of a file with so many directories on the way to it, one in the other. -/
def chainKey : Nat → String
  | 0 => "x.js"
  | n + 1 => "a/" ++ chainKey n

/-- So many directories, one in the other. -/
def chain (n : Nat) : List String := List.replicate n "a"

/-- The key of a chain spells out the chain. -/
theorem pieces_chainKey (n : Nat) : pieces (chainKey n) = chain n ++ ["x.js"] := by
  induction n with
  | zero => rfl
  | succ n ih =>
      have spelled : (chainKey (n + 1)).toList = ['a'] ++ '/' :: (chainKey n).toList := by
        rw [chainKey, String.toList_append]
        rfl
      rw [pieces, spelled, Text.splitOnChar_append_cons, List.map_append]
      change [String.ofList ['a']] ++ pieces (chainKey n) = _
      rw [ih]
      rfl

private theorem eq_of_mem_chainKey {n : Nat} {step : String}
    (member : step ∈ chain n ++ ["x.js"]) : step = "a" ∨ step = "x.js" := by
  rcases List.mem_append.1 member with among | last
  · exact .inl (List.eq_of_mem_replicate among)
  · exact .inr (List.mem_singleton.1 last)

/-- The key of a chain may be written under. -/
theorem isSafeName_chainKey (n : Nat) : isSafeName (chainKey n) = true := by
  have parts : FileName.parts (Text.replaceChar '\\' '/' (chainKey n)) = chain n ++ ["x.js"] := by
    have finest : (chain n ++ ["x.js"]).flatMap finer = chain n ++ ["x.js"] := by
      refine (List.flatMap_congr fun step member => ?_).trans (List.flatMap_singleton' _)
      rcases eq_of_mem_chainKey member with rfl | rfl <;> rfl
    rw [parts_replaceChar, pieces_chainKey, finest, List.filter_eq_self]
    intro step member
    rcases eq_of_mem_chainKey member with rfl | rfl <;> rfl
  have relative : FileName.isAbsolute (Text.replaceChar '\\' '/' (chainKey n)) = false := by
    rw [FileName.isAbsolute, Text.replaceChar, String.toList_map]
    cases n with
    | zero => decide
    | succ n =>
        rw [chainKey, String.toList_append]
        rfl
  have down : (chain n ++ ["x.js"]).contains ".." = false := by
    rw [← Bool.not_eq_true, List.contains_iff_mem]
    intro member
    rcases eq_of_mem_chainKey member with up | up <;> exact absurd up (by decide)
  have foreign : (chain n ++ ["x.js"]).head? ≠ some toolchainDir := by
    intro first
    rcases eq_of_mem_chainKey (List.mem_of_mem_head? first) with own | own <;>
      exact absurd own (by decide)
  simp only [isSafeName, parts, relative, down, bne_iff_ne.2 foreign]
  simp

private theorem plainStep_of_mem {n : Nat} {step : String} (member : step ∈ chain n) :
    PlainStep step :=
  List.eq_of_mem_replicate member ▸ by decide

private theorem chain_add (n d : Nat) : chain (n + d) = chain n ++ chain d :=
  List.replicate_append_replicate.symm

private theorem pathBytes_chain (n : Nat) : pathBytes (chain n) = 2 * n := by
  induction n with
  | zero => rfl
  | succ n ih =>
      rw [chain, List.replicate_succ, pathBytes]
      change 1 + 1 + pathBytes (chain n) = _
      omega

variable {directory : String} {n room : Nat} {fs : FileSystem}

/-- So many directories stand one in the other in the project directory, and none that would be
next. -/
structure Chained (directory : String) (n : Nat) (fs : FileSystem) : Prop where
  there : ∀ p, p <+: steps directory ++ chain n → fs.get? p = some .directory
  free : ∀ rest, fs.get? (steps directory ++ chain n ++ "a" :: rest) = none

namespace Chained

/-- In a directory that is all there is, nothing stands yet. -/
theorem withDirectory (straight : Straight directory) :
    Chained directory 0 (.withDirectory directory) where
  there p leading := (stands_withDirectory straight).there p (by simpa [chain] using leading)
  free rest := by
    rw [chain, List.replicate_zero, List.append_nil]
    exact get?_withDirectory_below directory "a" rest

/-- A file beside the chain leaves it. -/
theorem put (chained : Chained directory 0 fs) {key : String} (other : key ≠ "a")
    (content : String) :
    Chained directory 0 (fs.put (steps directory ++ [key]) (.file content)) := by
  have none : steps directory ++ chain 0 = steps directory := List.append_nil _
  constructor
  · intro p leading
    rw [none] at leading
    have apart : p ≠ steps directory ++ [key] := by
      rintro rfl
      exact not_prefix_below leading
    rw [FileSystem.get?_put_of_ne fs apart]
    exact chained.there p (by rwa [none])
  · intro rest
    have apart : steps directory ++ chain 0 ++ "a" :: rest ≠ steps directory ++ [key] := by
      rw [none]
      intro same
      exact other (List.cons.inj (List.append_cancel_left same)).1.symm
    rw [FileSystem.get?_put_of_ne fs apart]
    exact chained.free rest

private theorem plainStep (plain : Plain directory) {step : String}
    (member : step ∈ steps directory ++ chain n) : PlainStep step :=
  (List.mem_append.1 member).elim (plain.named step) plainStep_of_mem

private theorem run_ensureDirectories (chained : Chained directory n fs) (plain : Plain directory)
    {more : Nat} (some_more : 0 < more) (enough : more ≤ room + 1)
    (short : pathBytes (steps directory ++ chain (n + more)) ≤ FileSystem.maxPathBytes) :
    ∃ fs', (FileOp.ensureDirectories room (steps directory ++ chain (n + more))).run.run fs =
        (.ok (), fs') ∧
      (∀ p, p <+: steps directory ++ chain (n + more) → fs'.get? p = some .directory) ∧
      ∀ step rest, fs'.get? (steps directory ++ chain (n + more) ++ step :: rest) = none := by
  have whole : steps directory ++ chain (n + more) = steps directory ++ chain n ++ chain more := by
    rw [chain_add, List.append_assoc]
  have fresh : ∀ p, p <+: chain more → p ≠ [] →
      fs.get? (steps directory ++ chain n ++ p) = none := by
    intro p leading nonempty
    cases p with
    | nil => exact absurd rfl nonempty
    | cons step rest =>
        have first := List.eq_of_mem_replicate (leading.subset List.mem_cons_self)
        rw [first]
        exact chained.free rest
  have named : ∀ step ∈ steps directory ++ chain (n + more), PlainStep step := fun _ member =>
    plainStep plain member
  rw [whole] at named short ⊢
  obtain ⟨fs', ran, made, kept⟩ := FileSystem.run_ensureDirectories_of_free named short
    chained.there fresh room (by rwa [chain, List.length_replicate])
  refine ⟨fs', ran, made, fun step rest => ?_⟩
  have next : chain more ++ step :: rest = "a" :: (chain (more - 1) ++ step :: rest) := by
    obtain ⟨less, rfl⟩ : ∃ less, more = less + 1 := ⟨more - 1, by omega⟩
    rfl
  rw [kept _ not_prefix_below, List.append_assoc, next]
  exact chained.free _

/-- A key with more directories makes the chain longer, by as many as there is room for, and by
one more. -/
theorem writeEntry (chained : Chained directory n fs) (plain : Plain directory) {more : Nat}
    (some_more : 0 < more) (enough : more ≤ room + 1)
    (short : pathBytes (steps directory) + 2 * (n + more) + 5 ≤ FileSystem.maxPathBytes)
    (content : String) :
    ∃ fs', (Project.writeEntry room directory (chainKey (n + more)) content).run.run fs =
      (.ok (), fs') ∧ Chained directory (n + more) fs' := by
  have safe := isSafeName_chainKey (n + more)
  have named : ∀ step ∈ steps directory ++ chain (n + more), PlainStep step := fun _ member =>
    plainStep plain member
  have spelled : steps (join directory (chainKey (n + more))) =
      steps directory ++ chain (n + more) ++ ["x.js"] := by
    rw [steps_join (parts_of_isSafeName safe).1 plain.straight, pieces_chainKey,
      List.append_assoc]
  have bytes : pathBytes (steps directory ++ chain (n + more)) =
      pathBytes (steps directory) + 2 * (n + more) := by
    rw [pathBytes_append, pathBytes_chain]
  have last : pathBytes ["x.js"] = 5 := by decide
  obtain ⟨fs₁, ran, made, empty⟩ :=
    chained.run_ensureDirectories plain some_more enough (by rw [bytes]; omega)
  have above : FileSystem.parent (steps (join directory (chainKey (n + more)))) =
      steps directory ++ chain (n + more) := by
    rw [spelled, parent_concat_of_plain named]
  have located : fs₁.locate (steps (join directory (chainKey (n + more)))) =
      .ok (steps directory ++ chain (n + more) ++ ["x.js"]) := by
    rw [spelled]
    exact FileSystem.locate_concat named (by decide) (by rwa [pathBytes_append, bytes, last]) made
  refine ⟨_, run_writeEntry_of_made safe (above ▸ ran) located (by rw [empty]; nofun), ?_, ?_⟩
  · intro p leading
    have apart : p ≠ steps directory ++ chain (n + more) ++ ["x.js"] := by
      rintro rfl
      exact not_prefix_below leading
    rw [FileSystem.get?_put_of_ne fs₁ apart]
    exact made p leading
  · intro rest
    have apart : steps directory ++ chain (n + more) ++ "a" :: rest ≠
        steps directory ++ chain (n + more) ++ ["x.js"] := by
      intro same
      exact absurd (List.cons.inj (List.append_cancel_left same)).1 (by decide)
    rw [FileSystem.get?_put_of_ne fs₁ apart]
    exact empty "a" rest

end Chained

end Project

namespace Toolchain

open Project (chainKey)

/-- The files of a page and its script, and two more that some directories lead to, the second one
by more directories than the first one. -/
def chainEntries (first more : Nat) : List (String × SourceFile) :=
  [("index.html", .ofName "index.html" "<script src=\"a.jsx\"></script>"),
    ("a.jsx", .ofName "a.jsx" ""), (chainKey first, .ofName (chainKey first) ""),
    (chainKey (first + more), .ofName (chainKey (first + more)) "")]

/-- A page, its script, and two files that some directories lead to, one in the other. -/
def chained (first more : Nat) : SourceSet := .ofList (chainEntries first more)

private theorem names_chainEntries_nodup (first : Nat) {more : Nat} (some_more : 0 < more) :
    (Named.names (chainEntries first more)).Nodup := by
  have spelled (n : Nat) (key : String) (flat : Project.pieces key = [key]) (other : key ≠ "x.js") :
      key ≠ chainKey n := by
    intro same
    have last := congrArg List.getLast? (flat.symm.trans (same ▸ Project.pieces_chainKey n))
    rw [List.getLast?_concat] at last
    exact other (Option.some.inj last)
  have apart : chainKey first ≠ chainKey (first + more) := by
    intro same
    have lengths := congrArg (fun key => (Project.pieces key).length) same
    simp only [Project.pieces_chainKey, Project.chain, List.length_append,
      List.length_replicate] at lengths
    omega
  have page (n : Nat) := spelled n "index.html" (by decide) (by decide)
  have script (n : Nat) := spelled n "a.jsx" (by decide) (by decide)
  simp [Named.names, chainEntries, page, script, apart]

private theorem entries_chained (first : Nat) {more : Nat} (some_more : 0 < more) :
    (chained first more).entries = chainEntries first more :=
  congrArg Keyed.entries (Keyed.ofList_entries ⟨_, names_chainEntries_nodup first some_more⟩)

private theorem above_chainKey (n : Nat) : Project.above (chainKey n) = Project.chain n := by
  rw [Project.above, Project.pieces_chainKey, List.dropLast_concat, List.filter_eq_self]
  intro step member
  exact (Project.plainStep_of_mem member).goes

/-- A framework with components finds its entry among these files. -/
theorem exists_resolve_chained (first more : Nat) (some_more : 0 < more) :
    ∃ s, Selection.resolve .react (chained first more) = .ok s := by
  have names : (chained first more).names =
      ["index.html", "a.jsx", chainKey first, chainKey (first + more)] := by
    rw [Keyed.names, entries_chained first some_more]
    rfl
  cases resolved : Selection.resolve .react (chained first more) with
  | ok s => exact ⟨s, rfl⟩
  | error e =>
      cases Selection.resolves_of_eq resolved with
      | noPage missing => exact absurd (by rw [names]; exact List.mem_cons_self) missing
      | noEntry present component missing =>
          have unsuited := missing ".jsx" List.mem_cons_self "a.jsx" (by simp [names])
          exact absurd unsuited (by decide)

private theorem run_chained {directory : String} (plain : Project.Plain directory)
    {first more room : Nat} (some_first : 0 < first) (some_more : 0 < more)
    (enough : first ≤ room + 1) (enough' : more ≤ room + 1)
    (short : FileSystem.pathBytes (FileSystem.steps directory) + 2 * (first + more) + 5 ≤
      FileSystem.maxPathBytes) :
    ∃ fs, ((chained first more).entries.forM fun (key, file) =>
        Project.writeEntry room directory key file.content).run.run (.withDirectory directory) =
          (.ok (), fs) ∧ Project.Chained directory (first + more) fs := by
  have page : Project.FlatKey "index.html" := by decide +kernel
  have script : Project.FlatKey "a.jsx" := by decide +kernel
  have level₀ := Project.level_withDirectory plain
  have level₁ := level₀.put page "<script src=\"a.jsx\"></script>"
  have start := ((Project.Chained.withDirectory plain.straight).put
    (show "index.html" ≠ "a" by decide) "<script src=\"a.jsx\"></script>").put
      (show "a.jsx" ≠ "a" by decide) ""
  obtain ⟨fs₁, ran₁, chain₁⟩ := start.writeEntry plain some_first enough (by omega) ""
  rw [Nat.zero_add] at ran₁ chain₁
  obtain ⟨fs₂, ran₂, chain₂⟩ := chain₁.writeEntry plain some_more enough' short ""
  refine ⟨fs₂, ?_, chain₂⟩
  rw [entries_chained first some_more, chainEntries]
  have first₀ := level₀.run_writeEntry plain page room
  have second₀ := level₁.run_writeEntry plain script room
  refine Eq.trans (FileSystem.run_forM_cons (by exact first₀ _) _) ?_
  refine Eq.trans (FileSystem.run_forM_cons (by exact second₀ _) _) ?_
  refine Eq.trans (FileSystem.run_forM_cons (by exact ran₁) _) ?_
  exact FileSystem.run_forM_cons (by exact ran₂) []

/-- **What there is room to make may be too deep to be removed.** Two files are written one after
the other, and there is room to make the directories for each of them. The second one goes on where
the first one ended, so there may be no room to remove them all. -/
theorem not_clears_chained {t : Toolchain} (plain : Project.Plain t.directory) {first more : Nat}
    (some_first : 0 < first) (some_more : 0 < more) (enough : first ≤ t.depths.make + 1)
    (enough' : more ≤ t.depths.make + 1)
    (short : FileSystem.pathBytes (FileSystem.steps t.directory) + 2 * (first + more) + 5 ≤
      FileSystem.maxPathBytes)
    (deep : t.depths.remove < first + more) : ¬t.Clears (chained first more) := by
  obtain ⟨fs, written, chain⟩ := run_chained plain some_first some_more enough enough' short
  have there : fs.HasKind (FileSystem.steps t.directory ++ Project.chain (first + more)) true :=
    ⟨_, chain.there _ (List.prefix_refl _), rfl⟩
  refine not_clears_of_above t _ (chainKey (first + more)) ?_ ?_
  · rwa [above_chainKey, Project.chain, List.length_replicate]
  · rw [above_chainKey]
    exact Project.hasKind_write written there

end Toolchain

end WebPreview
