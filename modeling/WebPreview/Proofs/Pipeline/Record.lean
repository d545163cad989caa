import WebPreview.Proofs.Pipeline.Consult

/-! # What a finished run has on record

A run writes down what it chose, what a compiler answered, what it built and what went
wrong, in fields that are set at different steps. As long as it is under way these fields
agree with each other (`WebPreview.Pipeline.Underway`): every step but the last hands that
agreement on, and each of the three ways in which a run ends turns it into the agreement
of a finished record (`WebPreview.Pipeline.Settled`). So every run that comes to a state
at all comes to a settled one (`WebPreview.Pipeline.settled_of_value_run`).
-/

namespace WebPreview.Pipeline

/-- The lines that a reply adds to the errors: one for a failure, none otherwise. -/
def errorLines : Option Reply → List String
  | some (.outcome (.failure reason)) => [reason.line]
  | _ => []

private theorem errorLines_of_no_failure {reply : Option Reply}
    (fine : ¬∃ reason, reply = some (.outcome (.failure reason))) : errorLines reply = [] := by
  unfold errorLines
  split
  · next reason => exact absurd ⟨reason, rfl⟩ fine
  · rfl

/-- The framework is not known, or it is and its files cannot be chosen. -/
def Unresolved (id : String) (files : SourceSet) : Prop :=
  (∃ e, Framework.parse id = .error e) ∨
    ∃ framework e, Framework.parse id = .ok framework ∧
      Selection.resolve framework files = .error e

private theorem unresolved_iff {id : String} {files : SourceSet} :
    Unresolved id files ↔ ∃ e, (State.start id files).choose = .error e := by
  simp only [Unresolved, State.choose, Except.bind_eq_error_iff, Except.mapError_eq_error_iff]
  constructor
  · rintro (⟨e, unnamed⟩ | ⟨framework, e, named, missing⟩)
    · exact ⟨e, .inl unnamed⟩
    · exact ⟨_, .inr ⟨framework, named, .inl ⟨e, missing, rfl⟩⟩⟩
  · rintro ⟨e, unnamed | ⟨framework, named, ⟨e', missing, -⟩ | ⟨_, -, never⟩⟩⟩
    · exact .inl ⟨e, unnamed⟩
    · exact .inr ⟨framework, e', named, missing⟩
    · cases never

variable {compiler : Option Compiler} {id : String} {files : SourceSet} {framework : Framework}
  {selection : Selection} {s : State}

/-- The record of a run that has chosen its files and has not ended. Nothing is built yet,
and what a compiler answered agrees with what was noted about it. -/
structure Underway (compiler : Option Compiler) (id : String) (files : SourceSet)
    (selection : Selection) (s : State) : Prop where
  request : s.frameworkId = id ∧ s.files = files
  named : Framework.parse id = .ok selection.framework
  resolved : Selection.resolve selection.framework files = .ok selection
  framework : s.framework = some selection.framework
  selected : s.selection = some selection
  open_ended : s.outcome = none
  unbuilt : s.assets = none
  fallback : s.fallbackUsed = true ↔ ∃ reason, s.remoteOutcome = some (.outcome (.failure reason))
  consulted : s.remoteOutcome ≠ none → compiler ≠ none ∧ s.needsFullCompile = true
  errors : s.errors = errorLines s.remoteOutcome

/-- The record of a run that has ended.

It is done exactly if there is a document and failed exactly if there is a failure. The framework
and the files chosen are there together, they are those that the identifier and the source set come
to, and they are missing exactly if the files could not be chosen, of which the run has failed. A
fallback was used exactly if a compiler answered with a failure, and only a compiler that was given,
for an entry that needs it, has answered at all. Script and style were built here exactly if the run
is done without the document of a compiler. The errors are the compiler's failure and the run's own,
in this order. -/
structure Settled (compiler : Option Compiler) (id : String) (files : SourceSet)
    (s : State) : Prop where
  request : s.frameworkId = id ∧ s.files = files
  ended : s.stage = .done ∨ s.stage = .failed
  done : s.stage = .done ↔ ∃ html, s.outcome = some (.success html)
  failed : s.stage = .failed ↔ ∃ reason, s.outcome = some (.failure reason)
  framework : s.framework = none ↔ s.selection = none
  chosen : ∀ selection, s.selection = some selection → s.framework = some selection.framework ∧
    Framework.parse id = .ok selection.framework ∧
      Selection.resolve selection.framework files = .ok selection
  selection : s.selection = none ↔ Unresolved id files
  unresolved : s.selection = none → s.stage = .failed
  fallback : s.fallbackUsed = true ↔ ∃ reason, s.remoteOutcome = some (.outcome (.failure reason))
  consulted : s.remoteOutcome ≠ none → compiler ≠ none ∧ s.needsFullCompile = true
  assets : s.assets ≠ none ↔
    s.stage = .done ∧ ∀ html, s.remoteOutcome ≠ some (.outcome (.success html))
  errors : s.errors = errorLines s.remoteOutcome ++ errorLines (s.outcome.map .outcome)

namespace Underway

/-- A build is underway as soon as its files are resolved. -/
theorem chosen (chosen : (State.start id files).choose = .ok (framework, selection)) :
    Underway compiler id files selection { State.start id files with
      stage := .resolving, framework := some framework, selection := some selection } := by
  obtain ⟨named, resolved⟩ := choose_eq_ok_iff.1 chosen
  obtain rfl := Selection.framework_of_resolve resolved
  exact {
    request := ⟨rfl, rfl⟩
    named := named
    resolved := resolved
    framework := rfl
    selected := rfl
    open_ended := rfl
    unbuilt := rfl
    fallback := by simp [State.start]
    consulted := by simp [State.start]
    errors := rfl }

/-- The verdict about the entry may change only as long as no compiler has answered. -/
theorem classified (underway : Underway compiler id files selection s)
    (unasked : s.remoteOutcome = none) (verdict : Bool) :
    Underway compiler id files selection
      { s with stage := .classifying, needsFullCompile := verdict } :=
  { underway with consulted := fun answered => absurd unasked answered }

/-- A build stays underway when it hears the answer of the compiler. -/
theorem heard (underway : Underway compiler id files selection s)
    (unasked : s.remoteOutcome = none) (given : compiler ≠ none)
    (complex : s.needsFullCompile = true) (answer : Option Reply) :
    Underway compiler id files selection (s.heard answer) := by
  have quiet : ¬s.fallbackUsed = true := by
    rw [underway.fallback, unasked]
    simp
  have clean : s.errors = [] := by
    rw [underway.errors, unasked]
    rfl
  unfold State.heard
  split
  · next reason =>
    exact { underway with
      fallback := ⟨fun _ => ⟨reason, rfl⟩, fun _ => rfl⟩
      consulted := fun _ => ⟨given, complex⟩
      errors := by rw [clean]; rfl }
  · next other =>
    have fine : ¬∃ reason, answer = some (.outcome (.failure reason)) := fun ⟨reason, same⟩ =>
      other reason same
    exact { underway with
      fallback := iff_of_false quiet fine
      consulted := fun _ => ⟨given, complex⟩
      errors := clean.trans (errorLines_of_no_failure fine).symm }

private theorem framework_none_iff (underway : Underway compiler id files selection s) :
    s.framework = none ↔ s.selection = none := by
  rw [underway.framework, underway.selected]
  exact iff_of_false (Option.some_ne_none _) (Option.some_ne_none _)

private theorem selection_none_iff (underway : Underway compiler id files selection s) :
    s.selection = none ↔ Unresolved id files := by
  have found : ¬Unresolved id files := by
    rw [unresolved_iff, choose_eq_ok_iff.2 ⟨underway.named, underway.resolved⟩]
    simp
  refine iff_of_false ?_ found
  rw [underway.selected]
  exact Option.some_ne_none selection

private theorem chosen_of_selection (underway : Underway compiler id files selection s)
    (other : Selection) (same : s.selection = some other) :
    s.framework = some other.framework ∧ Framework.parse id = .ok other.framework ∧
      Selection.resolve other.framework files = .ok other := by
  obtain rfl := Option.some.inj (underway.selected.symm.trans same)
  exact ⟨underway.framework, underway.named, underway.resolved⟩

/-- A run under way that fails has nothing built. -/
theorem fail (underway : Underway compiler id files selection s) (stage : Stage)
    (reason : Failure) : Settled compiler id files ({ s with stage := stage }.fail reason) where
  request := underway.request
  ended := .inr rfl
  done := iff_of_false nofun nofun
  failed := iff_of_true rfl ⟨reason, rfl⟩
  framework := underway.framework_none_iff
  chosen := underway.chosen_of_selection
  selection := underway.selection_none_iff
  unresolved _ := rfl
  fallback := underway.fallback
  consulted := underway.consulted
  assets := iff_of_false (fun built => built underway.unbuilt) fun ended => nomatch ended.1
  errors := congrArg (· ++ [reason.line]) underway.errors

/-- A run under way is done with a document of its own or with that of a compiler. -/
theorem finish (underway : Underway compiler id files selection s) (html : String)
    {assets : Option Assets}
    (built : assets ≠ none ↔ ∀ html, s.remoteOutcome ≠ some (.outcome (.success html))) :
    Settled compiler id files ({ s with assets := assets }.finish html) where
  request := underway.request
  ended := .inl rfl
  done := iff_of_true rfl ⟨html, rfl⟩
  failed := iff_of_false nofun nofun
  framework := underway.framework_none_iff
  chosen := underway.chosen_of_selection
  selection := underway.selection_none_iff
  unresolved missing := by
    rw [underway.selected] at missing
    cases missing
  fallback := underway.fallback
  consulted := underway.consulted
  assets := built.trans (and_iff_right rfl).symm
  errors := underway.errors.trans (List.append_nil _).symm

end Underway

/-- A run whose files cannot be chosen ends before anything else is noted. -/
theorem settled_of_unresolved {e : PreviewError}
    (chosen : (State.start id files).choose = .error e) :
    Settled compiler id files
      ({ State.start id files with stage := .resolving }.fail e.toFailure) where
  request := ⟨rfl, rfl⟩
  ended := .inr rfl
  done := iff_of_false nofun nofun
  failed := iff_of_true rfl ⟨_, rfl⟩
  framework := iff_of_true rfl rfl
  chosen selection same := by
    change none = some selection at same
    cases same
  selection := iff_of_true rfl (unresolved_iff.2 ⟨e, chosen⟩)
  unresolved _ := rfl
  fallback := iff_of_false nofun nofun
  consulted := fun answered => absurd rfl answered
  assets := iff_of_false (fun built => built rfl) fun ended => nomatch ended.1
  errors := rfl

variable {engine : ScriptEngine} {s' : State}

/-- A build in this process ends a run that has no document of a compiler. -/
theorem settled_of_value_runInProcess (underway : Underway compiler id files selection s)
    (none_found : ∀ html, s.remoteOutcome ≠ some (.outcome (.success html)))
    (ran : (runInProcess engine selection s).run.value = .ok s') :
    Settled compiler id files s' := by
  simp only [runInProcess, Build.value_bind, State.value_inProcess] at ran
  cases built : (Assets.ofSelection engine selection).run.value with
  | ok assets =>
      rw [built] at ran
      have assembled :
          ({ s with stage := .inProcess, assets := some assets } : State).assemble selection = _ :=
        assemble_of_assets none_found rfl
      obtain rfl := (Except.ok.inj ran).symm.trans assembled
      exact underway.finish _ (iff_of_true (Option.some_ne_none _) none_found)
  | error fault =>
      rw [built] at ran
      cases fault with
      | preview e =>
          obtain rfl := Except.ok.inj ran
          exact underway.fail .inProcess e.toFailure
      | _ => cases ran

/-- A run that was given a document by a compiler ends with it. -/
theorem Underway.settled_assemble (underway : Underway compiler id files selection s)
    {html : String} (answered : s.remoteOutcome = some (.outcome (.success html))) :
    Settled compiler id files (s.assemble selection) := by
  have assembled : s.assemble selection = s.finish html := by
    simp only [State.assemble, answered]
  have built : s.assets ≠ none ↔ ∀ html, s.remoteOutcome ≠ some (.outcome (.success html)) := by
    constructor
    · intro built
      exact absurd underway.unbuilt built
    · intro none_found
      exact absurd answered (none_found html)
  rw [assembled]
  exact underway.finish html built

private theorem afterClassify_eq_outOfProcess_iff {complex given : Bool} :
    afterClassify complex given = .outOfProcess ↔ complex = true ∧ given = true := by
  cases complex <;> cases given <;> decide

/-- Only a document leads straight to the assembly. -/
theorem afterOutOfProcess_eq_assemble_iff {answer : Option Reply} :
    afterOutOfProcess answer = .assemble ↔ ∃ html, answer = some (.outcome (.success html)) := by
  rcases answer with _ | (_ | _) | _ <;>
    simp [afterOutOfProcess, Reply.isSuccess, Outcome.isSuccess]

private theorem settled_of_value_runSelection (underway : Underway compiler id files selection s)
    (unasked : s.remoteOutcome = none)
    (ran : (runSelection engine compiler selection s).run.value = .ok s') :
    Settled compiler id files s' := by
  have classified := underway.classified unasked (State.entryNeedsFullCompile selection)
  simp only [runSelection, Build.value_bind, State.value_classify, Except.bind] at ran
  split at ran
  · next compiler route =>
    obtain ⟨complex, -⟩ := afterClassify_eq_outOfProcess_iff.1 route
    simp only [Build.value_bind, State.value_outOfProcess, Except.bind] at ran
    have heard := classified.heard unasked (Option.some_ne_none compiler) complex
      (State.answerOf (compiler selection.framework s.files).run.value)
    split at ran
    · next document =>
      obtain ⟨html, answered⟩ := afterOutOfProcess_eq_assemble_iff.1 document
      obtain rfl := Except.ok.inj ran
      exact heard.settled_assemble answered
    · next other =>
      refine settled_of_value_runInProcess heard ?_ ran
      intro html answered
      exact other (afterOutOfProcess_eq_assemble_iff.2 ⟨html, answered⟩)
  · refine settled_of_value_runInProcess classified ?_ ran
    intro html answered
    rw [unasked] at answered
    cases answered

/-- **What a finished run has on record.** The fields of the state that a run ends in agree
with each other, whatever the compiler answers, raises or leaves open and whatever the
script engine does, as long as the run comes to a state at all. -/
theorem settled_of_value_run (engine : ScriptEngine) (compiler : Option Compiler) (id : String)
    (files : SourceSet) (s : State) (ran : (run engine compiler id files).run.value = .ok s) :
    Settled compiler id files s := by
  simp only [run, Build.value_bind] at ran
  cases chosen : (State.start id files).choose with
  | error e =>
      rw [State.value_resolve_of_error chosen] at ran
      obtain rfl := Except.ok.inj ran
      exact settled_of_unresolved chosen
  | ok found =>
      obtain ⟨framework, selection⟩ := found
      rw [State.value_resolve_of_ok chosen] at ran
      exact settled_of_value_runSelection (.chosen chosen) rfl ran

/-- A run that falls back and then fails as well has both failures on record. -/
theorem settled_of_value_run_failing :
    let raising : Compiler := fun _ _ => throw (.other "OSError" "gone")
    let failing : ScriptEngine := fun _ => .error (.preview ⟨.general, "no memory", "a.jsx"⟩)
    ∃ s, (run failing (some raising) "react" importing).run.value = .ok s ∧
      Settled (some raising) "react" importing s ∧ s.fallbackUsed = true ∧ s.stage = .failed ∧
      s.errors = ["unknown: Out-of-process compiler raised: gone", "a.jsx: no memory"] := by
  intro raising failing
  have ran : ∃ s, (run failing (some raising) "react" importing).run.value = .ok s ∧
      s.fallbackUsed = true ∧ s.stage = .failed ∧
      s.errors = ["unknown: Out-of-process compiler raised: gone", "a.jsx: no memory"] :=
    ⟨_, rfl, rfl, rfl, rfl⟩
  obtain ⟨s, value, noted⟩ := ran
  exact ⟨s, value, settled_of_value_run failing (some raising) "react" importing s value, noted⟩

end WebPreview.Pipeline
