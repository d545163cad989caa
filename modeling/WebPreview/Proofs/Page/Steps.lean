import WebPreview.Page.Run
import WebPreview.Proofs.Schema.Validity
import WebPreview.Proofs.Validation.Verdicts

/-! # What each step of the page comes to

A step of a run ends well or stops, and it leaves a state behind either way. Both are
its result (`WebPreview.Page.Run.result`), which leaves out what the step shows. The
result of a sequence is that of its second step after the first one
(`WebPreview.Page.Run.result_bind`), showing something changes nothing, and a build
changes nothing but may stop the run (`WebPreview.Page.Run.result_build`).

From these laws there is one lemma for each part of the page. The session that the part
leaves behind is spelled out by what was given and clicked in it.
-/

namespace WebPreview.Page

/-- The state with another session. -/
def State.withSession (s : State) (session : Session) : State := { s with session }

namespace State

@[simp] private theorem session_withSession (s : State) (session : Session) :
    (s.withSession session).session = session := rfl

@[simp] private theorem withSession_withSession (s : State) (first second : Session) :
    (s.withSession first).withSession second = s.withSession second := rfl

/-- The state once the log is set to the level of a configuration. -/
def under (s : State) (config : Config) : State :=
  { s with level := some (Logging.levelOfName config.logLevel) }

/-- The log level leaves the session. -/
@[simp] theorem session_under (s : State) (config : Config) :
    (s.under config).session = s.session := rfl

end State

namespace Run

variable {α β : Type}

/-- How a step ends from a state, and the state that it leaves behind. -/
def result (step : Run α) (s : State) : Except Stop α × State := (step.run.run s).value

/-- A step that ended well is followed by the next one, and one that stopped by nothing. -/
def andThen (first : Except Stop α × State) (next : α → State → Except Stop β × State) :
    Except Stop β × State :=
  match first with
  | (.ok a, s) => next a s
  | (.error stop, s) => (.error stop, s)

/-- A step that ended well is followed by the next one. -/
@[simp] theorem andThen_ok (a : α) (s : State) (next : α → State → Except Stop β × State) :
    andThen (.ok a, s) next = next a s := rfl

/-- A step that stopped is followed by nothing. -/
@[simp] theorem andThen_error (stop : Stop) (s : State)
    (next : α → State → Except Stop β × State) :
    andThen (.error stop, s) next = (.error stop, s) := rfl

/-- A step that does nothing has its value and leaves the state. -/
@[simp] theorem result_pure (a : α) (s : State) : result (pure a : Run α) s = (.ok a, s) := rfl

/-- The result of a sequence is that of its second step after the first. -/
@[simp] theorem result_bind (step : Run α) (next : α → Run β) (s : State) :
    result (step >>= next) s = andThen (result step s) fun a => result (next a) := by
  unfold result
  rw [ExceptT.run_bind, StateT.run_bind, Traced.value_bind]
  rcases (step.run.run s).value with ⟨_ | _, _⟩ <;> rfl

@[simp] private theorem result_display (element : Element) (s : State) :
    result (display element) s = (.ok (), s) := rfl

@[simp] private theorem result_inside (block : Block) (step : Run α) (s : State) :
    result (inside block step) s = result step s := rfl

@[simp] private theorem result_session (s : State) : result session s = (.ok s.session, s) := rfl

@[simp] private theorem result_change (f : Session → Session) (s : State) :
    result (change f) s = (.ok (), s.withSession (f s.session)) := rfl

/-- Steps that change nothing and stop nothing do neither one after another. -/
theorem result_forM {xs : List α} {step : α → Run Unit}
    (quiet : ∀ x s, result (step x) s = (.ok (), s)) (s : State) :
    result (xs.forM step) s = (.ok (), s) := by
  induction xs with
  | nil => rfl
  | cons x rest ih =>
      change result (step x >>= fun _ => rest.forM step) s = _
      rw [result_bind, quiet, andThen_ok, ih]

private theorem result_forIn {xs : List α} {step : α → PUnit → Run (ForInStep PUnit)}
    (quiet : ∀ x s, result (step x ⟨⟩) s = (.ok (.yield ⟨⟩), s)) (s : State) :
    result (forIn xs ⟨⟩ step) s = (.ok ⟨⟩, s) := by
  induction xs with
  | nil => rfl
  | cons x rest ih =>
      rw [List.forIn_cons, result_bind, quiet, andThen_ok]
      exact ih

@[simp] private theorem result_getThe (s : State) : result (getThe State) s = (.ok s, s) := rfl

@[simp] private theorem result_modifyThe (f : State → State) (s : State) :
    result (modifyThe State f) s = (.ok (), f s) := rfl

/-- A build stops the run where it stops itself. What it writes and does is not part of
the state. -/
@[simp] theorem result_build (step : Build α) (s : State) :
    result (build step) s = (step.run.value.mapError .fault, s) := by
  unfold build
  rw [result_bind, result_getThe, andThen_ok, result_bind, result_forIn, andThen_ok]
  · cases step.run.value <;> rfl
  · intro event s
    split
    · split <;> rfl
    · rfl

@[simp] private theorem result_log (level : Level) (logger message : String) (s : State) :
    result (build (Build.log level logger message)) s = (.ok (), s) := by
  rw [result_build]
  rfl

end Run

open Run

variable (v : Visit)

@[simp] private theorem result_button (b : Button) (s : State) :
    result (button v b) s = (.ok (v.clicked b), s) := rfl

/-- The framework is the one chosen, among the ones offered, and they can be offered. -/
structure Visit.Chooses (s : Session) (f : Framework) : Prop where
  listed : s.framework ∈ Framework.all.map Framework.id
  named : f.id = v.framework.getD s.framework

private theorem result_chooseFramework_of_chooses {s : State} {f : Framework}
    (chosen : v.Chooses s.session f) : result (chooseFramework v) s = (.ok f, s) := by
  have known : Framework.ofId? (v.framework.getD s.session.framework) = some f := by
    rw [← chosen.named, Framework.ofId?_id]
  have listed := List.isSome_idxOf?.2 chosen.listed
  obtain ⟨index, here⟩ := Option.isSome_iff_exists.1 listed
  simp only [chooseFramework, result_bind, result_session, andThen_ok, here, result_display, known,
    result_pure]

private theorem result_chooseFramework_of_not_chooses {s : State}
    (unknown : ∀ f, ¬v.Chooses s.session f) :
    ∃ fault, result (chooseFramework v) s = (.error (.fault fault), s) := by
  simp only [chooseFramework, result_bind, result_session, andThen_ok]
  cases listed : (Framework.all.map Framework.id).idxOf? s.session.framework with
  | none => exact ⟨_, rfl⟩
  | some index =>
      have member : s.session.framework ∈ Framework.all.map Framework.id := by
        rw [← List.isSome_idxOf?, listed]
        rfl
      simp only [result_bind, result_display, andThen_ok]
      cases known : Framework.ofId? (v.framework.getD s.session.framework) with
      | none => exact ⟨_, rfl⟩
      | some f =>
          have named := (find?_id_eq_some_iff Framework.ofId?_id).1 known
          exact absurd ⟨member, named.symm⟩ (unknown f)

/-- A framework that is not known stops the sidebar with a fault. -/
theorem result_sidebar_of_not_chooses (config : Config) {s : State}
    (unknown : ∀ f, ¬v.Chooses s.session f) :
    ∃ fault, result (sidebar v config) s = (.error (.fault fault), s) := by
  obtain ⟨fault, stopped⟩ := result_chooseFramework_of_not_chooses v unknown
  refine ⟨fault, ?_⟩
  simp only [sidebar, result_bind, result_display, andThen_ok, stopped, andThen_error]

/-- The session after the widgets beside the project. -/
def Visit.settled (f : Framework) (s : Session) : Session :=
  let s := s.choose f
  { s with
    autoCompile := v.autoCompile.getD s.autoCompile
    projectName := v.projectName.getD s.projectName }

/-- The sidebar leaves the files. -/
@[simp] theorem files_settled (f : Framework) (s : Session) : (v.settled f s).files = s.files := by
  simp only [Visit.settled, Session.choose]
  split <;> rfl

/-- The sidebar writes the chosen framework. -/
@[simp] theorem framework_settled (f : Framework) (s : Session) :
    (v.settled f s).framework = f.id := by
  simp only [Visit.settled, Session.choose]
  split
  · next same => exact same.symm
  · rfl

/-- The sidebar forgets the outcome if the framework is another one. -/
theorem outcome_settled (f : Framework) (s : Session) :
    (v.settled f s).outcome = if f.id = s.framework then s.outcome else none := by
  simp only [Visit.settled, Session.choose]
  split <;> rfl

/-- The sidebar writes the compile switch if it was moved. -/
@[simp] theorem autoCompile_settled (f : Framework) (s : Session) :
    (v.settled f s).autoCompile = v.autoCompile.getD s.autoCompile := by
  simp only [Visit.settled, Session.choose]
  split <;> rfl

/-- The session after a starter was loaded. -/
def Visit.started (f : Framework) (s : Session) : Session :=
  ((s.choose f).loadStarter f).note v.clock "info" ("Loaded " ++ f.id ++ " starter")

/-- What the sidebar comes to: the starter is loaded, the transcript is cleared or the choice
is settled. -/
theorem result_sidebar_of_chooses (config : Config) {s : State} {f : Framework}
    (chosen : v.Chooses s.session f) :
    result (sidebar v config) s =
      if v.clicked .loadStarter then (.error .rerun, s.withSession (v.started f s.session))
      else if v.clicked .clearConsole then
        (.error .rerun, s.withSession { v.settled f s.session with console := [] })
      else (.ok (), s.withSession (v.settled f s.session)) := by
  simp only [sidebar, result_bind, result_display, andThen_ok, result_change, result_button,
    result_chooseFramework_of_chooses v chosen]
  cases v.clicked .loadStarter with
  | true => rfl
  | false =>
      simp only [Bool.false_eq_true, ↓reduceIte]
      cases config.compilerUrl <;>
        simp only [result_bind, result_display, andThen_ok, result_session, result_change,
          result_button] <;>
        cases v.clicked .clearConsole <;> rfl

/-- The key of the file in the editor, if there is one: the one chosen, or else the one shown. -/
def Visit.key? (s : Session) : Option String := s.reselect.selected.map v.file.getD

/-- The session once a file is in the editor. -/
def Visit.opened (s : Session) : Session := { s.reselect with selected := v.key? s }

/-- The session after the editor: the text that was written is the file's content. -/
def Visit.edited (s : Session) : Session :=
  match v.key? s, v.content with
  | some key, some text => (v.opened s).edit key text
  | _, _ => v.opened s

private theorem edit_self {s : Session} {key : String} {file : SourceFile}
    (here : s.files.get? key = some file) : s.edit key file.content = s := by
  simp only [Session.edit, here, ↓reduceIte]

/-- Choosing another shown file leaves the files. -/
theorem files_reselect (s : Session) : s.reselect.files = s.files := by
  unfold Session.reselect
  split <;> rfl

/-- With no file shown there is nothing to edit. -/
theorem edited_of_none {s : Session} (unshown : v.key? s = none) : v.edited s = v.opened s := by
  simp only [Visit.edited, unshown]

/-- The shown file takes the content of the editor. -/
theorem edited_of_some {s : Session} {key : String} {file : SourceFile}
    (shown : v.key? s = some key) (here : s.files.get? key = some file) :
    v.edited s = (v.opened s).edit key (v.content.getD file.content) := by
  rw [Visit.edited, shown]
  cases v.content with
  | some text => rfl
  | none =>
      have there : (v.opened s).files.get? key = some file := by
        rw [Visit.opened, files_reselect, here]
      exact (edit_self there).symm

/-- The file in the editor is one of the files. -/
def Visit.Finds (s : Session) : Prop := ∀ key, v.key? s = some key → key ∈ s.files.names

private theorem result_fileEditor_of_finds {s : State} {key : String} {names : List String}
    (shown : s.session.reselect.selected = some key) (found : v.Finds s.session) :
    result (fileEditor v key names) (s.withSession s.session.reselect) =
      (.ok (), s.withSession (v.edited s.session)) := by
  have opened : v.key? s.session = some (v.file.getD key) := by rw [Visit.key?, shown]; rfl
  obtain ⟨file, here⟩ := Option.isSome_iff_exists.1 (Keyed.contains_iff.2 (found _ opened))
  rw [edited_of_some v opened here, Visit.opened, opened]
  simp only [fileEditor, result_bind, result_display, andThen_ok, result_change, result_session,
    State.session_withSession, files_reselect, here, State.withSession_withSession]

private theorem result_fileEditor_of_not_finds {s : State} {key : String} (names : List String)
    (shown : s.session.reselect.selected = some key) (lost : ¬v.Finds s.session) :
    ∃ fault, result (fileEditor v key names) (s.withSession s.session.reselect) =
      (.error (.fault fault), s.withSession (v.opened s.session)) := by
  have opened : v.key? s.session = some (v.file.getD key) := by rw [Visit.key?, shown]; rfl
  have missing : s.session.files.get? (v.file.getD key) = none := by
    refine Keyed.get?_eq_none_iff.2 fun member => lost fun other also => ?_
    rwa [Option.some.inj (also.symm.trans opened)]
  rw [Visit.opened, opened]
  simp only [fileEditor, result_bind, result_display, andThen_ok, result_change, result_session,
    State.session_withSession, files_reselect, missing, State.withSession_withSession]
  exact ⟨_, rfl⟩

/-- The name that a new file would have. -/
def Visit.typed : String := Text.trim (v.newName.getD "")

/-- A new file is asked for, under a name that no file has yet. -/
structure Visit.Adds (s : Session) : Prop where
  clicked : v.clicked .add = true
  named : v.typed ≠ ""
  fresh : v.typed ∉ s.files.names

instance (s : Session) : Decidable (v.Adds s) :=
  decidable_of_iff (v.clicked .add = true ∧ v.typed ≠ "" ∧ v.typed ∉ s.files.names)
    ⟨fun ⟨clicked, named, fresh⟩ => ⟨clicked, named, fresh⟩,
      fun ⟨clicked, named, fresh⟩ => ⟨clicked, named, fresh⟩⟩

/-- The session after a file was added. -/
def Visit.added (s : Session) : Session :=
  (s.add (.ofName v.typed)).note v.clock "info" ("Added " ++ v.typed)

private theorem result_addRow_of_adds {s : State} (adds : v.Adds s.session) :
    result (addRow v) s = (.error .rerun, s.withSession (v.added s.session)) := by
  have fresh : s.session.files.contains (Text.trim (v.newName.getD "")) = false :=
    Bool.eq_false_iff.2 fun there => adds.fresh (Keyed.contains_iff.1 there)
  have named : ¬Text.trim (v.newName.getD "") = "" := adds.named
  simp only [addRow, addFile, result_bind, result_display, andThen_ok, result_inside, result_button,
    adds.clicked, ↓reduceIte, named, result_session, fresh, Bool.false_eq_true]
  rfl

private theorem result_addRow_of_not_adds {s : State} (rejects : ¬v.Adds s.session) :
    result (addRow v) s = (.ok (), s) := by
  simp only [addRow, addFile, result_bind, result_display, andThen_ok, result_inside, result_button]
  split
  · next clicked =>
      split
      · rfl
      · next named =>
          simp only [result_bind, result_session, andThen_ok]
          split
          · rfl
          · next there =>
              exact absurd ⟨clicked, named, fun member => there (Keyed.contains_iff.2 member)⟩
                rejects
  · rfl

/-- The session after a file was taken away. -/
def Visit.removed (key : String) (s : Session) : Session :=
  (s.remove key).note v.clock "info" ("Removed " ++ key)

private theorem result_removeRow (key : String) (s : State) :
    result (removeRow v key) s =
      if v.clicked (.remove key) then (.error .rerun, s.withSession (v.removed key s.session))
      else (.ok (), s) := by
  simp only [removeRow, result_bind, result_button, andThen_ok]
  cases v.clicked (.remove key) <;> rfl

/-- Opening the list of files writes the shown key. -/
theorem opened_eq (s : Session) : v.opened s = { s with selected := v.key? s } := by
  simp only [Visit.opened, Session.reselect]
  split <;> rfl

/-- The editor changes nothing but the files and which one of them is chosen. -/
theorem exists_edited (s : Session) :
    ∃ files selected, v.edited s = { s with files := files, selected := selected } := by
  unfold Visit.edited
  rw [opened_eq]
  split
  · rw [Session.edit]
    split
    · split <;> exact ⟨_, _, rfl⟩
    · exact ⟨_, _, rfl⟩
  · exact ⟨_, _, rfl⟩

/-- An edit leaves the framework. -/
@[simp] theorem framework_edited (s : Session) : (v.edited s).framework = s.framework := by
  obtain ⟨_, _, edited⟩ := exists_edited v s
  rw [edited]

/-- An edit leaves the outcome. -/
@[simp] theorem outcome_edited (s : Session) : (v.edited s).outcome = s.outcome := by
  obtain ⟨_, _, edited⟩ := exists_edited v s
  rw [edited]

/-- An edit leaves the compile switch. -/
@[simp] theorem autoCompile_edited (s : Session) : (v.edited s).autoCompile = s.autoCompile := by
  obtain ⟨_, _, edited⟩ := exists_edited v s
  rw [edited]

private theorem selected_edit (s : Session) (key text : String) :
    (s.edit key text).selected = s.selected := by
  unfold Session.edit
  split
  · split <;> rfl
  · rfl

/-- After an edit the shown file is selected. -/
theorem selected_edited (s : Session) : (v.edited s).selected = v.key? s := by
  unfold Visit.edited
  split
  · exact selected_edit _ _ _
  · rfl

/-- A file that is added ends the run for another one. -/
theorem result_files_of_adds {s : State} (found : v.Finds s.session)
    (adds : v.Adds (v.edited s.session)) :
    result (files v) s =
      (.error .rerun, s.withSession (v.added (v.edited s.session))) := by
  simp only [files, result_bind, result_change, andThen_ok, result_session,
    State.session_withSession]
  cases shown : s.session.reselect.selected with
  | none =>
      have unshown : v.key? s.session = none := by rw [Visit.key?, shown]; rfl
      have left : v.edited s.session = s.session.reselect := by
        rw [edited_of_none v unshown, Visit.opened, unshown, ← shown]
      rw [left] at adds ⊢
      simp only [result_bind, result_display, andThen_ok]
      rw [result_addRow_of_adds v adds, andThen_error]
      rfl
  | some key =>
      simp only [result_bind]
      rw [result_fileEditor_of_finds v shown found, andThen_ok, result_bind]
      rw [result_addRow_of_adds v adds, andThen_error]
      rfl

/-- Without a new file, the shown one is removed or edited. -/
theorem result_files_of_not_adds {s : State} (found : v.Finds s.session)
    (rejects : ¬v.Adds (v.edited s.session)) :
    result (files v) s =
      (v.key? s.session).elim (.ok (), s.withSession (v.edited s.session)) fun key =>
        if v.clicked (.remove key) then
          (.error .rerun, s.withSession (v.removed key (v.edited s.session)))
        else (.ok (), s.withSession (v.edited s.session)) := by
  simp only [files, result_bind, result_change, andThen_ok, result_session,
    State.session_withSession]
  cases shown : s.session.reselect.selected with
  | none =>
      have unshown : v.key? s.session = none := by rw [Visit.key?, shown]; rfl
      have left : v.edited s.session = s.session.reselect := by
        rw [edited_of_none v unshown, Visit.opened, unshown, ← shown]
      rw [left] at rejects ⊢
      simp only [result_bind, result_display, andThen_ok]
      rw [result_addRow_of_not_adds v rejects, andThen_ok, unshown]
      rfl
  | some key =>
      have opened : v.key? s.session = some (v.file.getD key) := by rw [Visit.key?, shown]; rfl
      simp only [result_bind]
      rw [result_fileEditor_of_finds v shown found, andThen_ok, result_bind]
      rw [result_addRow_of_not_adds v rejects, andThen_ok, opened]
      simp only [Option.isSome_some, ↓reduceIte, result_bind, result_session, andThen_ok,
        State.session_withSession, selected_edited, opened, result_removeRow]
      rfl

/-- A shown file that is not there stops the run with a fault. -/
theorem result_files_of_not_finds {s : State} (lost : ¬v.Finds s.session) :
    ∃ fault, result (files v) s =
      (.error (.fault fault), s.withSession (v.opened s.session)) := by
  simp only [files, result_bind, result_change, andThen_ok, result_session,
    State.session_withSession]
  cases shown : s.session.reselect.selected with
  | none =>
      have unshown : v.key? s.session = none := by rw [Visit.key?, shown]; rfl
      refine absurd ?_ lost
      intro key opened
      cases unshown.symm.trans opened
  | some key =>
      obtain ⟨fault, stopped⟩ :=
        result_fileEditor_of_not_finds v s.session.reselect.files.names shown lost
      simp only [result_bind]
      rw [stopped, andThen_error]
      exact ⟨fault, rfl⟩

/-- The compiler that the configuration names. -/
def Visit.compiler (config : Config) : Option Compiler :=
  config.remote?.map fun remote => remote.compiler v.transport

/-- What the project of a session comes to. -/
def Visit.build (config : Config) (s : Session) : Except Raised Outcome :=
  (Pipeline.compile v.engine (v.compiler config) s.framework s.files).run.value

/-- The session with what was built. -/
def Session.built (s : Session) (time : String) (outcome : Outcome) : Session :=
  let s := { s with outcome := some outcome }
  match outcome with
  | .success html =>
    s.note time "info"
      ("Compiled " ++ s.framework ++ " project (" ++ toString html.length ++ " bytes)")
  | .failure reason => s.note time "error" reason.line

private theorem result_compile (config : Config) (s : State) :
    result (compile v config) s =
      andThen ((v.build config s.session).mapError .fault, s) fun outcome s =>
        (.ok (), s.withSession (s.session.built v.clock outcome)) := by
  simp only [compile, result_bind, result_session, andThen_ok, result_log]
  rw [result_build, Visit.build, Visit.compiler]
  generalize (Pipeline.compile v.engine _ s.session.framework s.session.files).run.value = ended
  cases ended with
  | error fault => rfl
  | ok outcome => cases outcome <;> rfl

private theorem result_outcome (s : State) : result outcome s = (.ok (), s) := by
  simp only [outcome, result_bind, result_session, andThen_ok]
  cases s.session.outcome with
  | none => rfl
  | some built => cases built <;> rfl

/-- The session after the preview, or the fault that the build stopped with. -/
def Visit.previewed (config : Config) (s : Session) : Except Raised Session :=
  if v.clicked .compile || s.autoCompile then (v.build config s).map (s.built v.clock) else .ok s

private theorem result_previewColumn (config : Config) (s : State) :
    result (previewColumn v config) s =
      andThen ((v.previewed config s.session).mapError .fault, s) fun session s =>
        (.ok (), s.withSession session) := by
  simp only [previewColumn, result_bind, result_display, andThen_ok, result_button, result_session,
    Visit.previewed]
  split
  · simp only [result_bind, result_display, andThen_ok, result_inside, result_compile]
    cases v.build config s.session with
    | error fault => rfl
    | ok built => exact result_outcome _
  · exact result_outcome _

private theorem result_console (s : State) : result console s = (.ok (), s) := by
  simp only [console, result_bind, result_session, andThen_ok]
  split
  · rfl
  · exact result_forM (fun _ _ => rfl) s

/-- The fault of a project that cannot leave as an archive. -/
def archiveFault : ArchiveError → Raised
  | .emptyName => .other "IndexError" "string index out of range"
  | .longName => .other "error" "ushort format requires 0 <= number <= 65535"

private theorem result_archive (files : SourceSet) (s : State) :
    result (archive files) s =
      ((Archive.entries files).mapError fun e => .fault (archiveFault e), s) := by
  unfold archive
  cases Archive.entries files with
  | ok entries => rfl
  | error e => cases e <;> rfl

private theorem result_downloads (s : State) :
    result downloads s =
      (((Archive.entries s.session.files).map fun _ => ()).mapError fun e =>
        .fault (archiveFault e), s) := by
  simp only [downloads, result_bind, result_session, andThen_ok, result_display, result_inside,
    result_archive]
  cases Archive.entries s.session.files <;> rfl

/-- The check of the files stops no run, whatever they are and whatever text names the framework. -/
theorem exists_check (room : Nat) (name : String) (files : SourceSet) :
    ∃ problems, Validation.check room (.str name) files = .ok problems := by
  have refuses : ScriptEngine.OnlyRefuses .ok := fun _ _ never => nomatch never
  have shown : (Json.str name).text room = .ok name := rfl
  obtain ⟨_, problems, -, checked, -⟩ := Validation.exists_verdict refuses shown files
  exact ⟨problems, checked⟩

private theorem result_projectColumn (s : State) :
    result (projectColumn v) s = andThen (result (files v) s) fun _ s => (.ok (), s) := by
  simp only [projectColumn, result_bind, result_display, andThen_ok]
  rcases result (files v) s with ⟨_ | _, s⟩
  · simp only [andThen_error]
  · obtain ⟨problems, checked⟩ := exists_check usualRoom s.session.framework s.session.files
    simp only [andThen_ok, result_bind, result_session, checked]
    exact result_forM (fun _ _ => rfl) s

/-- The page under a configuration: the sidebar, the editor, the preview and the archive,
and each one only if those before it have not stopped the run. -/
theorem result_body (config : Config) (s : State) :
    result (body v config) s =
      andThen (result (sidebar v config) (s.under config)) fun _ s =>
        andThen (result (files v) s) fun _ s =>
          andThen ((v.previewed config s.session).mapError .fault, s) fun session s =>
            (((Archive.entries session.files).map fun _ => ()).mapError fun e =>
              .fault (archiveFault e), s.withSession session) := by
  simp only [body, result_bind, andThen_ok, result_modifyThe, result_inside]
  change andThen (result (sidebar v config) (s.under config)) _ = _
  rcases result (sidebar v config) (s.under config) with ⟨_ | _, s⟩
  · simp only [andThen_error]
  · simp only [andThen_ok, result_bind, result_display, result_inside, result_projectColumn]
    rcases result (files v) s with ⟨_ | _, s⟩
    · simp only [andThen_error]
    · simp only [andThen_ok, result_bind, result_inside, result_previewColumn]
      cases v.previewed config s.session with
      | error fault => rfl
      | ok session =>
          simp only [Except.mapError, andThen_ok, result_bind, result_display, result_inside,
            result_console, result_downloads, State.session_withSession]

/-- With a valid configuration, the page comes to what its body comes to. -/
theorem result_page {s : State} {number : Nat} {config : Config}
    (valid : s.settings.config.2 = .ok (number, config)) :
    result (page v) s = result (body v config) { s with settings := s.settings.config.1 } := by
  simp only [page, result_bind, result_display, andThen_ok, Page.config, result_getThe,
    result_modifyThe, valid]
  rfl

end WebPreview.Page
