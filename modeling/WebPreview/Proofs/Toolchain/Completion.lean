import WebPreview.Proofs.Toolchain.Success

/-! # Builds whose containers end well

Where the project is written and both containers report the status zero, nothing but the output
of the second one tells what a build comes to: the result that is read from it, or the reason
why there is none (`WebPreview.Toolchain.Completes.value_compile`).
-/

namespace WebPreview

namespace Toolchain

/-- The step stops with the fault, whatever is held before. -/
def Fails {α : Type} (step : Step α) (fault : Raised) : Prop :=
  ∀ held, (step.run.run held).value.1 = .error fault

namespace Fails

variable {α β : Type} {step : Step α} {next : α → Step β} {fault : Raised}

private theorem unavailable (message : String) :
    Fails (Step.unavailable message : Step α)
      (.preview ⟨.remoteUnavailable, message, unknownFile⟩) :=
  fun _ => rfl

/-- A step that ends well is followed by the one that stops. -/
theorem bind {p : α → Prop} {a : α} (first : Yields step p) (here : p a)
    (second : Fails (next a) fault) : Fails (step >>= next) fault := by
  intro held
  rcases value : (step.run.run held).value with ⟨result, held'⟩
  have made : result = .ok a := by
    have ended := (first held a).2 here
    rwa [value] at ended
  subst made
  rw [Step.run_bind_of_ok value]
  exact second held'

end Fails

/-- The project is written, both containers are run to their ends and report the status zero,
and the second one prints the output. -/
structure Completes (t : Toolchain) (engine : ContainerEngine) (files : SourceSet)
    (output : String) : Prop where
  reached : engine.connect = .ok () ∧ engine.ping = .ok ()
  written : (Project.writeFresh t.depths.make t.directory t.script files).1 = .ok ()
  fetched : engine.imageGet = .ok () ∨
    (∃ message, engine.imageGet = .error (.imageNotFound message)) ∧ engine.imagePull = .ok ()
  installed : (engine.container .install).run = .ok () ∧ engine.ReportsZero .install
  bundled : (engine.container .build).run = .ok () ∧ engine.ReportsZero .build
  printed : ∃ bytes, (engine.container .build).logs false = .ok bytes ∧
    Utf8.decodeLossy bytes = output

/-- What a build comes to by its output: by the result in it, or by the lack of one. -/
def outcomeOfOutput (s : Selection) (output : String) : Outcome :=
  match BuildResult.ofOutput output with
  | .ok result => outcome s result
  | .error fault => .failure ⟨fault.message, unknownFile⟩

namespace Completes

variable {t : Toolchain} {engine : ContainerEngine} {framework : Framework} {files : SourceSet}
  {s : Selection} {output : String}

/-- An output with a result makes a build come to it. -/
theorem builds (completes : t.Completes engine files output) {result : BuildResult}
    (read : BuildResult.ofOutput output = .ok result) : t.Builds engine files result where
  reached := completes.reached
  written := completes.written
  fetched := completes.fetched
  installed := completes.installed
  ended := by
    obtain ⟨status, ended, -⟩ := ContainerEngine.reportsZero_iff.2 completes.bundled
    exact ⟨status, ended⟩
  prints := by
    obtain ⟨bytes, logged, rfl⟩ := completes.printed
    exact ⟨bytes, logged, BuildResult.ofOutput_eq_ok_iff.1 read⟩

/-- An output without a result is all that the fault is about, for the status is not. -/
theorem fails_bundle (completes : t.Completes engine files output) {fault : BuildResult.Fault}
    (unread : BuildResult.ofOutput output = .error fault) (fs : FileSystem)
    (framework : Framework) (entry : String) :
    Fails (t.bundle engine fs framework entry)
      (.preview ⟨.remoteUnavailable, fault.message, unknownFile⟩) := by
  obtain ⟨status, ended, zero⟩ := ContainerEngine.reportsZero_iff.2 completes.bundled
  refine .bind (yields_runContainer t engine fs .build _ _) ended ?_
  refine .bind (yields_output engine .build false) completes.printed ?_
  simp only [unread, zero, ↓reduceIte]
  exact .unavailable _

private theorem fails_steps (completes : t.Completes engine files output)
    {fault : BuildResult.Fault}
    (unread : BuildResult.ofOutput output = .error fault) (framework : Framework)
    (entry : String) :
    Fails (t.steps engine framework entry files)
      (.preview ⟨.remoteUnavailable, fault.message, unknownFile⟩) := by
  refine .bind (.ofExcept _) completes.reached.1 ?_
  refine .bind (.call _ _) completes.reached.2 ?_
  refine .bind (yields_prepare t files) (Prod.ext completes.written rfl) ?_
  refine .bind (a := ()) (yields_ensureImage t engine) completes.fetched ?_
  refine .bind (a := ()) (yields_install t engine _) completes.installed ?_
  exact completes.fails_bundle unread _ framework entry

private theorem strands_iff (completes : t.Completes engine files output)
    (component : framework ≠ .vanilla) (resolved : Selection.resolve framework files = .ok s) :
    t.Strands engine framework files ↔ ¬t.Clears files :=
  ⟨fun strands => strands.2,
    strands_of_reached component resolved completes.reached.1 completes.reached.2⟩

/-- **What a build comes to whose containers end well** is told by its output, if the project can
be removed. -/
theorem value_compile (completes : t.Completes engine files output)
    (component : framework ≠ .vanilla) (resolved : Selection.resolve framework files = .ok s) :
    (t.compile engine framework files).run.value =
      if t.Clears files then .ok (outcomeOfOutput s output) else .error stranded := by
  by_cases clears : t.Clears files
  · rw [if_pos clears]
    unfold outcomeOfOutput
    cases read : BuildResult.ofOutput output with
    | ok result =>
        rw [value_compile_of_builds component resolved (completes.builds read), if_pos clears]
    | error fault =>
        have clear : ¬t.Strands engine framework files := fun strands => strands.2 clears
        obtain ⟨message, file, value, words⟩ := value_compile_of_fault component resolved clear
          (completes.fails_steps read framework (entryName s) {})
        obtain ⟨rfl, rfl⟩ := words _ _ rfl
        exact value
  · rw [if_neg clears]
    exact value_compile_of_strands component resolved
      ((completes.strands_iff component resolved).2 clears)

end Completes

end Toolchain

end WebPreview
