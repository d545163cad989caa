import WebPreview.Proofs.Toolchain.Flat
import WebPreview.Proofs.Toolchain.Release

/-! # When a build in containers comes to a document

A build comes to a document exactly when everything up to the first container goes well, that
container reports the status zero, the second one is run to its end, the last line of its output
that is not blank is a result without an error, and the project can be removed
(`WebPreview.Toolchain.compile_eq_success_iff`). The status that the second container reports is
only looked at where the output holds no result, so it has no part in this
(`WebPreview.Toolchain.compile_success_of_status_one`).
-/

namespace WebPreview

namespace BuildResult

/-- The last line of the output that is not blank is an object that reads as the
result. -/
def OnLastLine (output : String) (result : BuildResult) : Prop :=
  ∃ before line after v, Text.lines output = before ++ line :: after ∧
    Text.isBlankText line = false ∧ (∀ other ∈ after, Text.isBlankText other = true) ∧
    Json.ofStrict? line = some v ∧ decode v = .ok result

/-- The last line that passes a test has none behind it that does. -/
theorem getLast?_filter_eq_some_iff {lines : List String} {line : String} {test : String → Bool} :
    (lines.filter test).getLast? = some line ↔ ∃ before after,
      lines = before ++ line :: after ∧ test line = true ∧ ∀ other ∈ after, ¬test other = true := by
  rw [List.getLast?_eq_some_iff]
  constructor
  · rintro ⟨earlier, kept⟩
    obtain ⟨front, back, rfl, -, last⟩ := List.filter_eq_append_iff.1 kept
    obtain ⟨blank, after, rfl, -, passes, none⟩ := List.filter_eq_cons_iff.1 last
    exact ⟨front ++ blank, after, by rw [List.append_assoc], passes, List.filter_eq_nil_iff.1 none⟩
  · rintro ⟨before, after, rfl, passes, fail⟩
    exact ⟨before.filter test, by
      rw [List.filter_append, List.filter_cons_of_pos passes, List.filter_eq_nil_iff.2 fail]⟩

/-- A line is a result exactly if it reads as a value that decodes. -/
theorem ofLine_eq_ok_iff {line : String} {result : BuildResult} :
    ofLine line = .ok result ↔ ∃ v, Json.ofStrict? line = some v ∧ decode v = .ok result := by
  unfold ofLine
  cases Json.ofStrict? line with
  | none => simp
  | some v => simp [Except.mapError_eq_ok_iff]

/-- An output is read as the result that its last line says, blank ones aside. -/
theorem ofOutput_eq_ok_iff {output : String} {result : BuildResult} :
    ofOutput output = .ok result ↔ OnLastLine output result := by
  have last (line : String) :
      ((Text.lines output).filter (!Text.isBlankText ·)).getLast? = some line ↔
        ∃ before after, Text.lines output = before ++ line :: after ∧
          Text.isBlankText line = false ∧ ∀ other ∈ after, Text.isBlankText other = true := by
    rw [getLast?_filter_eq_some_iff]
    simp
  constructor
  · intro read
    unfold ofOutput at read
    split at read
    · cases read
    · next line found =>
      obtain ⟨before, after, split, written, blank⟩ := (last line).1 found
      obtain ⟨v, value, decoded⟩ := ofLine_eq_ok_iff.1 read
      exact ⟨before, line, after, v, split, written, blank, value, decoded⟩
  · rintro ⟨before, line, after, v, split, written, blank, value, decoded⟩
    unfold ofOutput
    rw [(last line).2 ⟨before, after, split, written, blank⟩]
    exact ofLine_eq_ok_iff.2 ⟨v, value, decoded⟩

end BuildResult

namespace ContainerEngine

/-- The container's wait reports the status zero. A report without a status does not
count. -/
def ReportsZero (engine : ContainerEngine) (c : Container) : Prop :=
  ∃ report status, (engine.container c).wait = .ok report ∧
    report.field? ExitStatus.fieldName = some status ∧ status.equalsInt 0 = true

/-- The second container's output ends with the result. -/
def Prints (engine : ContainerEngine) (result : BuildResult) : Prop :=
  ∃ bytes, (engine.container .build).logs false = .ok bytes ∧
    BuildResult.OnLastLine (Utf8.decodeLossy bytes) result

/-- The container is started, and its wait reports an exit status. -/
def Ended (engine : ContainerEngine) (c : Container) (status : ExitStatus) : Prop :=
  (engine.container c).run = .ok () ∧
    ∃ report, (engine.container c).wait = .ok report ∧ ExitStatus.ofWait report = .ok status

/-- A container ends with status zero exactly if it runs and reports zero. -/
theorem reportsZero_iff {engine : ContainerEngine} {c : Container} :
    (∃ status, engine.Ended c status ∧ status.isZero = true) ↔
      (engine.container c).run = .ok () ∧ engine.ReportsZero c := by
  constructor
  · rintro ⟨status, ⟨started, report, waited, reported⟩, zero⟩
    refine ⟨started, report, ?_⟩
    cases report with
    | obj fields =>
        cases reported
        cases stated : (Json.obj fields).field? ExitStatus.fieldName with
        | none =>
            rw [stated] at zero
            cases zero
        | some value =>
            rw [stated] at zero
            exact ⟨value, waited, rfl, zero⟩
    | _ => cases reported
  · rintro ⟨started, report, value, waited, stated, zero⟩
    cases report with
    | obj fields =>
        refine ⟨⟨value⟩, ⟨started, _, waited, ?_⟩, zero⟩
        simp only [ExitStatus.ofWait, stated, Option.getD_some]
    | _ => cases stated

end ContainerEngine

namespace Toolchain

/-- The step ends well with exactly the values of which the property holds, whatever is
held before. -/
def Yields {α : Type} (step : Step α) (property : α → Prop) : Prop :=
  ∀ held a, (step.run.run held).value.1 = .ok a ↔ property a

namespace Yields

variable {α β : Type} {step : Step α}

private theorem congr {p q : α → Prop} (yields : Yields step p) (same : ∀ a, p a ↔ q a) :
    Yields step q :=
  fun held a => (yields held a).trans (same a)

private theorem pure (a : α) : Yields (Pure.pure a : Step α) (a = ·) :=
  fun _ _ => ⟨Except.ok.inj, congrArg _⟩

private theorem unavailable (message : String) :
    Yields (Step.unavailable message : Step α) fun _ => False :=
  fun _ _ => ⟨nofun, False.elim⟩

/-- A result that is taken over yields its value. -/
theorem ofExcept (result : Except Raised α) : Yields (Step.ofExcept result) (result = .ok ·) :=
  fun _ _ => Iff.rfl

private theorem bind {next : α → Step β} {p : α → Prop} {q : α → β → Prop} (first : Yields step p)
    (second : ∀ a, Yields (next a) (q a)) :
    Yields (step >>= next) fun b => ∃ a, p a ∧ q a b := by
  intro held b
  rcases value : (step.run.run held).value with ⟨result, held'⟩
  have known (a : α) : result = .ok a ↔ p a := by
    rw [← first held a, value]
  cases result with
  | ok a =>
      rw [Step.run_bind_of_ok value, second a held' b]
      constructor
      · intro there
        exact ⟨a, (known a).1 rfl, there⟩
      · rintro ⟨other, here, there⟩
        cases (known other).2 here
        exact there
  | error fault =>
      rw [Step.run_bind_of_error value]
      constructor
      · intro ended
        cases ended
      · rintro ⟨a, here, -⟩
        cases (known a).2 here

private theorem emit (event : Event) : Yields (Step.emit event) fun _ => True :=
  fun _ _ => ⟨fun _ => trivial, fun _ => rfl⟩

private theorem hold (change : Held → Held) : Yields (Step.hold change) fun _ => True :=
  fun _ _ => ⟨fun _ => trivial, fun _ => rfl⟩

/-- A call yields what the engine answers. -/
theorem call (c : EngineCall) (result : Except Raised α) :
    Yields (Step.call c result) (result = .ok ·) :=
  (bind (emit _) fun _ => ofExcept result).congr fun _ =>
    ⟨fun ⟨_, _, here⟩ => here, fun here => ⟨(), trivial, here⟩⟩

end Yields

/-- Everything that a build needs to come to a result: the engine answers, the project
can be written, the image is there or can be fetched, the compilers are installed with
the status zero, and the second container is run to its end and prints the result. The
status of the second container is not asked for. -/
structure Builds (t : Toolchain) (engine : ContainerEngine) (files : SourceSet)
    (result : BuildResult) : Prop where
  reached : engine.connect = .ok () ∧ engine.ping = .ok ()
  written : (Project.writeFresh t.depths.make t.directory t.script files).1 = .ok ()
  fetched : engine.imageGet = .ok () ∨
    (∃ message, engine.imageGet = .error (.imageNotFound message)) ∧ engine.imagePull = .ok ()
  installed : (engine.container .install).run = .ok () ∧ engine.ReportsZero .install
  ended : ∃ status, engine.Ended .build status
  prints : engine.Prints result

section Steps

variable (t : Toolchain) (engine : ContainerEngine)

/-- The files are prepared exactly if they can all be written. -/
theorem yields_prepare (files : SourceSet) : Yields (t.prepare files) fun fs =>
    Project.writeFresh t.depths.make t.directory t.script files = (.ok (), fs) := by
  intro held fs
  unfold prepare
  rcases Project.writeFresh t.depths.make t.directory t.script files with ⟨result, made⟩
  cases result with
  | ok _ =>
      change Except.ok made = .ok fs ↔ _
      simp
  | error fault =>
      change Except.error fault = .ok fs ↔ _
      simp

/-- The image is there exactly if it is found, or missing and pulled. -/
theorem yields_ensureImage : Yields (t.ensureImage engine) fun _ =>
    engine.imageGet = .ok () ∨
      (∃ message, engine.imageGet = .error (.imageNotFound message)) ∧
        engine.imagePull = .ok () := by
  refine (Yields.bind (.emit _) fun _ => ?_).congr fun a => ⟨fun ⟨_, _, found⟩ => found,
    fun found => ⟨(), trivial, found⟩⟩
  split
  · next missing => exact (Yields.call _ _).congr fun a => by simp [missing]
  · next other =>
    exact (Yields.ofExcept _).congr fun a => ⟨.inl, fun found => found.resolve_right
      fun ⟨⟨message, missing⟩, _⟩ => other message missing⟩

/-- A container yields the status with which it ended. -/
theorem yields_runContainer (fs : FileSystem) (c : Container) (spec : ContainerSpec)
    (limit : Seconds) : Yields (t.runContainer engine fs c spec limit) (engine.Ended c) := by
  refine (Yields.bind (.call _ _) fun _ => .bind (.hold _) fun _ => .bind (.call _ _) fun report =>
    .ofExcept _).congr fun status => ?_
  constructor
  · rintro ⟨_, started, _, -, report, waited, reported⟩
    exact ⟨started, report, waited, reported⟩
  · rintro ⟨started, report, waited, reported⟩
    exact ⟨(), started, (), trivial, report, waited, reported⟩

/-- The output of a container is its decoded log. -/
theorem yields_output (c : Container) (errors : Bool) : Yields (output engine c errors)
    fun printed => ∃ bytes, (engine.container c).logs errors = .ok bytes ∧
      Utf8.decodeLossy bytes = printed :=
  .bind (.call _ _) fun _ => .pure _

/-- The install succeeds exactly if its container runs and reports zero. -/
theorem yields_install (fs : FileSystem) : Yields (t.install engine fs) fun _ =>
    (engine.container .install).run = .ok () ∧ engine.ReportsZero .install := by
  refine (Yields.bind (q := fun status _ => status.isZero = true)
    (yields_runContainer t engine fs .install _ _) fun status => ?_).congr
      fun _ => ContainerEngine.reportsZero_iff
  cases zero : status.isZero with
  | true => exact (Yields.pure ()).congr fun _ => by simp
  | false =>
      refine (Yields.bind (yields_output engine .install true) fun _ =>
        .unavailable _).congr fun _ => by simp

private theorem yields_bundle (fs : FileSystem) (framework : Framework) (entry : String) :
    Yields (t.bundle engine fs framework entry) fun result =>
      (∃ status, engine.Ended .build status) ∧ engine.Prints result := by
  refine (Yields.bind (yields_runContainer t engine fs .build _ _) fun status =>
    Yields.bind (q := fun printed result => BuildResult.ofOutput printed = .ok result)
      (yields_output engine .build false) fun printed => ?_).congr fun result => ?_
  · split
    · next made => exact (Yields.pure _).congr fun _ => by simp [made]
    · next fault none =>
      split
      · exact (Yields.unavailable _).congr fun _ => by simp [none]
      · refine (Yields.bind (yields_output engine .build true) fun _ =>
          .bind (.ofExcept _) fun _ => .unavailable _).congr fun _ => by simp [none]
  · constructor
    · rintro ⟨status, ended, _, ⟨bytes, printed, rfl⟩, read⟩
      exact ⟨⟨status, ended⟩, bytes, printed, BuildResult.ofOutput_eq_ok_iff.1 read⟩
    · rintro ⟨⟨status, ended⟩, bytes, printed, read⟩
      exact ⟨status, ended, _, ⟨bytes, printed, rfl⟩, BuildResult.ofOutput_eq_ok_iff.2 read⟩

private theorem yields_steps (framework : Framework) (entry : String) (files : SourceSet) :
    Yields (t.steps engine framework entry files) (t.Builds engine files) := by
  refine (Yields.bind (.ofExcept _) fun _ => .bind (.call _ _) fun _ =>
    .bind (yields_prepare t files) fun fs => .bind (yields_ensureImage t engine) fun _ =>
      .bind (yields_install t engine fs) fun _ => yields_bundle t engine fs framework entry).congr
    fun result => ?_
  constructor
  · rintro ⟨_, connected, _, answered, fs, written, _, fetched, _, installed, ended, prints⟩
    exact ⟨⟨connected, answered⟩, congrArg Prod.fst written, fetched, installed, ended, prints⟩
  · rintro ⟨⟨connected, answered⟩, written, fetched, installed, ended, prints⟩
    exact ⟨(), connected, (), answered, _, Prod.ext written rfl, (), fetched, (), installed, ended,
      prints⟩

end Steps

/-- A build ends in a failure or, where the project directory stays, in what stopped its removal. -/
def EndsInFailure (t : Toolchain) (engine : ContainerEngine) (framework : Framework)
    (files : SourceSet) : Prop :=
  (∃ reason, (t.compile engine framework files).run.value = .ok (.failure reason)) ∨
    t.Strands engine framework files ∧
      (t.compile engine framework files).run.value = .error stranded

section Compile

variable {t : Toolchain} {engine : ContainerEngine} {framework : Framework} {files : SourceSet}
  {s : Selection}

private theorem Builds.strands_iff {result : BuildResult} (component : framework ≠ .vanilla)
    (resolved : Selection.resolve framework files = .ok s)
    (builds : t.Builds engine files result) :
    t.Strands engine framework files ↔ ¬t.Clears files :=
  ⟨fun strands => strands.2,
    strands_of_reached component resolved builds.reached.1 builds.reached.2⟩

/-- A result goes into the page if the project can be removed. -/
theorem value_compile_of_builds (component : framework ≠ .vanilla)
    (resolved : Selection.resolve framework files = .ok s) {result : BuildResult}
    (builds : t.Builds engine files result) :
    (t.compile engine framework files).run.value =
      if t.Clears files then .ok (outcome s result) else .error stranded := by
  split
  · next clears =>
    have clear : ¬t.Strands engine framework files := fun strands => strands.2 clears
    exact value_compile_of_result component resolved clear
      ((yields_steps t engine framework (entryName s) files {} result).2 builds)
  · next deep =>
    exact value_compile_of_strands component resolved
      ((builds.strands_iff component resolved).2 deep)

private theorem endsInFailure_of_no_result (component : framework ≠ .vanilla)
    (resolved : Selection.resolve framework files = .ok s)
    (none : ∀ result, ¬t.Builds engine files result) :
    t.EndsInFailure engine framework files := by
  by_cases strands : t.Strands engine framework files
  · exact .inr ⟨strands, value_compile_of_strands component resolved strands⟩
  · cases ended : ((t.steps engine framework (entryName s) files).run.run {}).value.1 with
    | ok result =>
        exact absurd ((yields_steps t engine framework (entryName s) files {} result).1 ended)
          (none result)
    | error fault =>
        obtain ⟨message, file, value, -⟩ :=
          value_compile_of_fault component resolved strands ended
        exact .inl ⟨_, value⟩

private theorem outcome_eq_success_iff {result : BuildResult} {html : String} :
    outcome s result = .success html ↔ result.error = none ∧ document s result = html := by
  unfold outcome
  cases result.error <;> simp

private theorem success_of_builds {result : BuildResult} (component : framework ≠ .vanilla)
    (resolved : Selection.resolve framework files = .ok s)
    (builds : t.Builds engine files result) (clears : t.Clears files)
    (fine : result.error = none) :
    (t.compile engine framework files).run.value = .ok (.success (document s result)) := by
  rw [value_compile_of_builds component resolved builds, if_pos clears,
    outcome_eq_success_iff.2 ⟨fine, rfl⟩]

/-- A build comes to a document exactly when it comes to a result without an error and what it made
can be removed. -/
theorem value_compile_eq_success_iff {html : String} :
    (t.compile engine framework files).run.value = .ok (.success html) ↔
      framework ≠ .vanilla ∧ ∃ s result, Selection.resolve framework files = .ok s ∧
        t.Builds engine files result ∧ result.error = none ∧ document s result = html ∧
        t.Clears files := by
  constructor
  · intro value
    by_cases vanilla : framework = .vanilla
    · subst vanilla
      cases value
    · cases resolved : Selection.resolve framework files with
      | error e =>
          simp only [compile, vanilla, ↓reduceIte, resolved] at value
          cases value
      | ok s =>
          by_cases built : ∃ result, t.Builds engine files result
          · obtain ⟨result, builds⟩ := built
            rw [value_compile_of_builds vanilla resolved builds] at value
            split at value
            · next clears =>
              obtain ⟨fine, made⟩ := outcome_eq_success_iff.1 (Except.ok.inj value)
              exact ⟨vanilla, s, result, rfl, builds, fine, made, clears⟩
            · cases value
          · rcases endsInFailure_of_no_result vanilla resolved (not_exists.1 built) with
              ⟨reason, failed⟩ | ⟨-, raised⟩
            · cases failed.symm.trans value
            · cases raised.symm.trans value
  · rintro ⟨component, s, result, resolved, builds, fine, rfl, clears⟩
    exact success_of_builds component resolved builds clears fine

private theorem endsInFailure_of_no_success
    (none : ∀ html, (t.compile engine framework files).run.value ≠ .ok (.success html)) :
    t.EndsInFailure engine framework files := by
  by_cases vanilla : framework = .vanilla
  · subst vanilla
    exact .inl ⟨_, rfl⟩
  · cases resolved : Selection.resolve framework files with
    | error e =>
        left
        simp only [compile, vanilla, ↓reduceIte, resolved]
        exact ⟨_, rfl⟩
    | ok s =>
        by_cases built : ∃ result, t.Builds engine files result
        · obtain ⟨result, builds⟩ := built
          have value := value_compile_of_builds vanilla resolved builds
          by_cases clears : t.Clears files
          · rw [if_pos clears] at value
            cases made : outcome s result with
            | success html => exact absurd (value.trans (congrArg _ made)) (none html)
            | failure reason => exact .inl ⟨reason, value.trans (congrArg _ made)⟩
          · rw [if_neg clears] at value
            exact .inr ⟨(builds.strands_iff vanilla resolved).2 clears, value⟩
        · exact endsInFailure_of_no_result vanilla resolved (not_exists.1 built)

end Compile

variable (t : Toolchain) (engine : ContainerEngine)

/-- **When a build in containers comes to a document.** It does so exactly when the framework has a
compiler, the files can be chosen, everything up to the first container goes well, that one reports
the status zero, the second one ends and prints a result without an error on its last line that is
not blank, and the project can be removed. Whatever else happens is a failure, or the fault that
a project directory is left with: above all that the first container reports any other status or
none, and that the second one, whatever its status, prints no such result. -/
theorem compile_eq_success_iff (framework : Framework) (files : SourceSet) :
    (∀ html, (t.compile engine framework files).run.value = .ok (.success html) ↔
      framework ≠ .vanilla ∧ ∃ s result, Selection.resolve framework files = .ok s ∧
        t.Builds engine files result ∧ result.error = none ∧ document s result = html ∧
        t.Clears files) ∧
    ((∀ html, (t.compile engine framework files).run.value ≠ .ok (.success html)) →
      t.EndsInFailure engine framework files) ∧
    (¬engine.ReportsZero .install → t.EndsInFailure engine framework files) ∧
    ((∀ result, engine.Prints result → result.error ≠ none) →
      t.EndsInFailure engine framework files) := by
  refine ⟨fun html => value_compile_eq_success_iff, endsInFailure_of_no_success,
    fun unreported => ?_, fun faulty => ?_⟩
  · refine endsInFailure_of_no_success fun html value => ?_
    obtain ⟨-, s, result, -, builds, -⟩ := value_compile_eq_success_iff.1 value
    exact unreported builds.installed.2
  · refine endsInFailure_of_no_success fun html value => ?_
    obtain ⟨-, s, result, -, builds, made, -⟩ := value_compile_eq_success_iff.1 value
    exact faulty result builds.prints made

/-- An engine whose second container prints a script and ends with a status. -/
def printing (status : Int) : ContainerEngine where
  container
    | .install => {}
    | .build =>
      { wait := .ok (.obj [("StatusCode", .int status)])
        logs := fun _ => .ok ("\x7b\"script\":\"x\"\x7d".toList.map fun c => UInt8.ofNat c.toNat) }

/-- The files of the page can be written. -/
theorem writeFresh_paged :
    (Project.writeFresh usualRoom standard.directory standard.script paged).1 = .ok () :=
  Project.writeFresh_of_flat (by decide) _ _ (by decide +kernel)

private theorem clears_paged : standard.Clears paged := by decide +kernel

private theorem builds_printing (status : Int) :
    standard.Builds (printing status) paged ⟨"x", "", none⟩ where
  reached := ⟨rfl, rfl⟩
  written := writeFresh_paged
  fetched := .inl rfl
  installed := ⟨rfl, _, _, rfl, rfl, rfl⟩
  ended := ⟨_, rfl, _, rfl, rfl⟩
  prints := ⟨_, rfl, BuildResult.ofOutput_eq_ok_iff.1 rfl⟩

/-- A build in which both containers report the status zero comes to a document. One
whose first container reports no status fails. -/
theorem compile_eq_success_paged :
    (standard.compile (printing 0) .react paged).run.value =
        .ok (.success "<script>x</script>") ∧
      ∃ reason, (standard.compile { container := fun _ => { wait := .ok (.obj []) } } .react
        paged).run.value = .ok (.failure reason) := by
  constructor
  · refine ((compile_eq_success_iff standard (printing 0) .react paged).1 _).2 ?_
    exact ⟨nofun, _, _, rfl, builds_printing 0, rfl, by decide +kernel, clears_paged⟩
  · have unreported : ¬({ container := fun _ => { wait := .ok (.obj []) } } :
        ContainerEngine).ReportsZero .install := by
      rintro ⟨report, status, waited, stated, -⟩
      cases waited
      cases stated
    have ended := (compile_eq_success_iff standard _ .react paged).2.2.1 unreported
    exact ended.resolve_right fun stays => stays.1.2 clears_paged

/-- A second container that reports the status one, after printing a script, makes the
build come to a document all the same. -/
theorem compile_success_of_status_one :
    ¬(printing 1).ReportsZero .build ∧
      (standard.compile (printing 1) .react paged).run.value =
        .ok (.success "<script>x</script>") := by
  constructor
  · rintro ⟨report, status, waited, stated, zero⟩
    cases waited
    cases stated
    cases zero
  · refine value_compile_eq_success_iff.2 ?_
    exact ⟨nofun, _, _, rfl, builds_printing 1, rfl, by decide +kernel, clears_paged⟩

end Toolchain

end WebPreview
