import WebPreview.CompileRequest
import WebPreview.Proofs.Selection.Resolve
import WebPreview.Proofs.Toolchain.Isolation

/-! # The entry in the command of a build

Files are chosen, looked at and written by their keys, while the command of the second container
has the name of the entry's record for its argument, which nothing looks at. Where the container
is asked for, the entry's file has been written to the place that its key spells out, and the key
is safe; the argument leads to that file and is safe itself exactly when the name is safe and
spells out the same place (`WebPreview.Toolchain.run_build_entry`). It always does if the record
goes by its key, and it need not if a request gives the record a name of its own.
-/

namespace WebPreview

namespace Project

variable {directory : String} {room : Nat} {fs : FileSystem}

/-- The name is as safe as that of a file has to be, and leads to the place that the key leads
to. -/
structure Names (directory name key : String) : Prop where
  safe : isSafeName name = true
  same : place directory name = place directory key

/-- With a key that is safe, all that counts is what the two spell out. -/
theorem names_iff {name key : String} (safe : isSafeName key = true)
    (straight : Straight directory) :
    Names directory name key ↔
      isSafeName name = true ∧ FileName.parts name = FileName.parts key := by
  constructor
  · intro names
    have same := names.same
    rw [place_of_isSafeName names.safe straight, place_of_isSafeName safe straight] at same
    exact ⟨names.safe, List.append_cancel_left same⟩
  · intro ⟨named, parts⟩
    refine ⟨named, ?_⟩
    rw [place_of_isSafeName named straight, place_of_isSafeName safe straight, parts]

private theorem writeEntries_eq (room : Nat) (directory : String)
    (entries : List (String × SourceFile)) :
    (entries.forM fun (key, file) => writeEntry room directory key file.content) =
      (entries.map fun p => (p.1, p.2.content)).forM fun p =>
        writeEntry room directory p.1 p.2 := by
  simp only [List.forM_eq_forM, List.forM_map]

/-- What is written is told by the keys and the contents. The names of the records do not come
into it. -/
theorem writeFresh_congr (room : Nat) (directory script : String) {files files' : SourceSet}
    (same : files.entries.map (fun p => (p.1, p.2.content)) =
      files'.entries.map fun p => (p.1, p.2.content)) :
    writeFresh room directory script files = writeFresh room directory script files' := by
  unfold writeFresh write
  rw [writeEntries_eq, same, ← writeEntries_eq]

end Project

/-- The entry of a framework with its key. -/
def SourceSet.entry? (files : SourceSet) (framework : Framework) : Option (String × SourceFile) :=
  framework.entrySuffixes.findSome? fun suffix =>
    files.entries.find? fun p => Text.endsWith p.1 suffix

/-- The entry file is the file of the entry. -/
theorem SourceSet.entryFile?_eq (files : SourceSet) (framework : Framework) :
    files.entryFile? framework = (files.entry? framework).map Prod.snd := by
  unfold entryFile? entry?
  rw [List.map_findSome?]
  rfl

private theorem SourceSet.mem_of_entry? {files : SourceSet} {framework : Framework}
    {p : String × SourceFile} (chosen : files.entry? framework = some p) : p ∈ files.entries := by
  obtain ⟨suffix, -, found⟩ := List.exists_of_findSome?_eq_some chosen
  exact List.mem_of_find?_eq_some found

namespace Toolchain

variable {t : Toolchain} {engine : ContainerEngine} {framework : Framework} {files : SourceSet}
  {spec : ContainerSpec}

/-- Where the second container is asked for, the files were chosen and the project was
written. -/
theorem chosen_of_asked_build
    (asks : (.build, spec) ∈ asked (t.compile engine framework files).run.trace) :
    ∃ s fs, framework ≠ .vanilla ∧ Selection.resolve framework files = .ok s ∧
      spec = t.buildSpec framework (entryName s) ∧
      Project.writeFresh t.depths.make t.directory t.script files = (.ok (), fs) := by
  by_cases stopped : framework = .vanilla ∨ ∃ e, Selection.resolve framework files = .error e
  · obtain ⟨reason, same⟩ := compile_of_stopped t stopped
    rw [same engine] at asks
    cases asks
  · obtain ⟨component, unrefused⟩ := not_or.1 stopped
    cases resolved : Selection.resolve framework files with
    | error e => exact absurd ⟨e, resolved⟩ unrefused
    | ok s =>
        obtain ⟨notes, trace, told⟩ := exists_trace_compile t engine component resolved
        rw [trace, asked_append, asked_of_logs told, List.append_nil] at asks
        have written :
            (Project.writeFresh t.depths.make t.directory t.script files).1 = .ok () := by
          apply Classical.not_not.1
          intro unwritten
          rw [asked_build_of_unwritten t engine framework (entryName s) unwritten] at asks
          cases asks
        refine ⟨s, (Project.writeFresh t.depths.make t.directory t.script files).2, component, rfl,
          ?_, Prod.ext written rfl⟩
        have leading := Staged.asked_prefix (staged_build t engine framework (entryName s) files)
        rcases List.mem_cons.1 (leading.subset asks) with first | second
        · cases first
        · exact (Prod.mk.inj (List.mem_singleton.1 second)).2

/-- Where the second container is asked for, its command has the name of the entry's record for
its argument. The entry's file was written to the place of its key, which is safe, and the
argument leads there and is safe exactly when it is a safe name that spells out the same, and
above all when it is the key. -/
theorem run_build_entry (straight : Project.Straight t.directory) {listing : List String}
    (asks : .engine (.run .build spec listing) ∈ (t.compile engine framework files).run.trace) :
    ∃ key entry fs, files.entry? framework = some (key, entry) ∧
      spec.command = shellCommand (runCommand framework entry.name) ∧
      Project.writeFresh t.depths.make t.directory t.script files = (.ok (), fs) ∧
      Project.isSafeName key = true ∧
      (∃ content, fs.get? (Project.place t.directory key) = some (.file content)) ∧
      (Project.Names t.directory entry.name key ↔
        Project.isSafeName entry.name = true ∧ FileName.parts entry.name = FileName.parts key) ∧
      (entry.name = key → Project.Names t.directory entry.name key) := by
  obtain ⟨s, fs, component, resolved, rfl, written⟩ := chosen_of_asked_build (mem_asked asks)
  cases Selection.resolves_of_eq resolved with
  | plain vanilla here => exact absurd vanilla component
  | @entered page entry _ here found =>
      rw [SourceSet.entryFile?_eq] at found
      obtain ⟨⟨key, entry⟩, chosen, rfl⟩ := Option.map_eq_some_iff.1 found
      obtain ⟨safe, there, -⟩ :=
        Project.hasKind_of_writeFresh written (SourceSet.mem_of_entry? chosen)
      refine ⟨key, entry, fs, chosen, rfl, written, safe, FileSystem.hasKind_file_iff.1 there,
        Project.names_iff safe straight, ?_⟩
      intro same
      refine ⟨?_, ?_⟩
      · rw [same]
        exact safe
      · rw [same]

/-- In a project whose files go by their keys the argument is the entry's key. -/
theorem run_build_entry_paged :
    Project.Straight standard.directory ∧ ∃ listing,
      .engine (.run .build (standard.buildSpec .react "a.jsx") listing) ∈
          (standard.compile (printing 0) .react paged).run.trace ∧
        Project.Names standard.directory "a.jsx" "a.jsx" := by
  have straight : Project.Straight standard.directory := by
    unfold Project.Straight
    decide
  obtain ⟨listing, after, split⟩ := trace_compile_paged
  have asks : .engine (.run .build (standard.buildSpec .react "a.jsx") listing) ∈
      (standard.compile (printing 0) .react paged).run.trace := by
    rw [split]
    exact List.mem_append_right _ List.mem_cons_self
  obtain ⟨key, entry, fs, chosen, -, -, -, -, -, named⟩ := run_build_entry straight asks
  cases chosen
  exact ⟨straight, listing, asks, named rfl⟩

/-- The page and the script that it takes, whose record has a name that leads up. -/
def climbing : SourceSet :=
  .ofList [("index.html", .ofName "index.html" "<script src=\"a.jsx\"></script>"),
    ("a.jsx", ⟨"../x.jsx", .jsx, ""⟩)]

/-- The request for them. -/
def climbingRequest : Json :=
  .obj [("framework", .str "react"),
    ("files", .obj [("index.html", .str "<script src=\"a.jsx\"></script>"),
      ("a.jsx", .ofTexts [("name", "../x.jsx")])])]

/-- The request is accepted, and its files are written. The argument of the command has not been
looked at: it leads out of the project. -/
theorem run_build_climbing :
    ∃ before listing after, CompileRequest.decode climbingRequest =
        .ok ⟨"react", climbing, .development⟩ ∧
      (standard.compile (printing 0) .react climbing).run.trace =
        before ++ .engine (.run .build (standard.buildSpec .react "../x.jsx") listing) :: after ∧
      Project.isSafeName "../x.jsx" = false ∧
      Project.place standard.directory "../x.jsx" = ["tmp", "x.jsx"] := by
  obtain ⟨s, chosen, named⟩ : ∃ s, Selection.resolve .react climbing = .ok s ∧
    entryName s = "../x.jsx" := ⟨_, rfl, rfl⟩
  have same : Project.writeFresh usualRoom standard.directory standard.script climbing =
    Project.writeFresh usualRoom standard.directory standard.script paged :=
      Project.writeFresh_congr _ _ _ rfl
  obtain ⟨fs, written⟩ : ∃ fs,
      Project.writeFresh usualRoom standard.directory standard.script climbing = (.ok (), fs) :=
    ⟨_, same.trans (Prod.ext writeFresh_paged rfl)⟩
  obtain ⟨listing, after, split⟩ := trace_compile_printing chosen written
  rw [named] at split
  exact ⟨_, listing, after, by rfl, split, by decide +kernel, by decide +kernel⟩

end Toolchain

end WebPreview
