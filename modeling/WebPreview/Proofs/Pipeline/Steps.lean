import WebPreview.Pipeline.Run
import WebPreview.Proofs.Build.Laws

/-! # What each step of the pipeline comes to

One lemma for each step of a run says which state it comes to, or which fault it
stops with. Together they give what a whole build comes to in closed form: a build
whose files cannot be chosen fails with the reason
(`WebPreview.Pipeline.value_compile_of_error`), and any other build comes to the
document of its compiler, if that was asked and gave one, and otherwise to what
the build comes to in this process (`WebPreview.Pipeline.value_compile_of_ok`).
-/

namespace WebPreview.Pipeline

namespace State

@[simp] private theorem value_failWith (s : State) (reason : Failure) :
    (s.failWith reason).run.value = .ok (s.fail reason) := rfl

/-- A set that does not resolve fails the build. -/
theorem value_resolve_of_error {s : State} {e : PreviewError} (chosen : s.choose = .error e) :
    s.resolve.run.value = .ok ({ s with stage := .resolving }.fail e.toFailure) := by
  have chosen' : ({ s with stage := .resolving } : State).choose = .error e := chosen
  simp only [resolve, chosen', value_failWith]

/-- A set that resolves is recorded with its framework and its selection. -/
theorem value_resolve_of_ok {s : State} {framework : Framework} {selection : Selection}
    (chosen : s.choose = .ok (framework, selection)) :
    s.resolve.run.value = .ok { s with
      stage := .resolving, framework := some framework, selection := some selection } := by
  have chosen' : ({ s with stage := .resolving } : State).choose = .ok (framework, selection) :=
    chosen
  simp only [resolve, chosen', Build.value_bind, Build.value_log, Build.value_pure]
  rfl

/-- Classifying records whether the entry needs the compiler. -/
@[simp] theorem value_classify (selection : Selection) (s : State) :
    (s.classify selection).run.value =
      .ok { s with
        stage := .classifying, needsFullCompile := entryNeedsFullCompile selection } := rfl

/-- What a compiler's result counts as: a fault that it raised is a failure. -/
def answerOf : Except Raised (Option Reply) → Option Reply
  | .ok reply => reply
  | .error fault =>
    some (.outcome (.failure ⟨"Out-of-process compiler raised: " ++ fault.message, unknownFile⟩))

@[simp] private theorem value_consult (compiler : Compiler) (framework : Framework)
    (files : SourceSet) :
    (consult compiler framework files).run.value =
      .ok (answerOf (compiler framework files).run.value) := by
  simp only [consult, Build.value_bind, Build.value_emit, Build.value_attempt, Except.bind]
  cases (compiler framework files).run.value <;> rfl

/-- The state after the compiler's answer: a failure is noted, and the build goes
on in this process. -/
def heard (s : State) (answer : Option Reply) : State :=
  let s := { s with stage := .outOfProcess, remoteOutcome := answer }
  match answer with
  | some (.outcome (.failure reason)) =>
    { s with fallbackUsed := true, errors := s.errors ++ [reason.line] }
  | _ => s

/-- The answer that is heard is the recorded one. -/
@[simp] theorem remoteOutcome_heard (s : State) (answer : Option Reply) :
    (s.heard answer).remoteOutcome = answer := by
  unfold heard
  split <;> rfl

/-- The state after the step out of process has heard what the compiler answers. -/
@[simp] theorem value_outOfProcess (compiler : Compiler) (selection : Selection) (s : State) :
    (s.outOfProcess compiler selection).run.value =
      .ok (s.heard (answerOf (compiler selection.framework s.files).run.value)) := by
  simp only [outOfProcess, Build.value_bind, value_consult, Except.bind]
  generalize answerOf (compiler selection.framework s.files).run.value = answer
  rcases answer with _ | (_ | _) | _ <;> rfl

/-- The state after the build in this process. Only an error of the build itself
becomes a failure; any other fault goes on to the caller. -/
def builtHere (s : State) : Except Raised Assets → Except Raised State
  | .ok assets => .ok { s with stage := .inProcess, assets := some assets }
  | .error (.preview e) => .ok ({ s with stage := .inProcess }.fail e.toFailure)
  | .error fault => .error fault

/-- The state after the step in process has the assets, or the reason why there are none. -/
@[simp] theorem value_inProcess (engine : ScriptEngine) (selection : Selection) (s : State) :
    (s.inProcess engine selection).run.value =
      s.builtHere (Assets.ofSelection engine selection).run.value := by
  simp only [inProcess, Build.value_bind, Build.value_attempt, Except.bind]
  cases (Assets.ofSelection engine selection).run.value with
  | ok assets =>
      change (if assets.degraded then _ else _ : Build State).run.value = _
      split <;> rfl
  | error fault => cases fault <;> rfl

end State

/-- What a selection comes to in this process alone. -/
def localOutcome (engine : ScriptEngine) (selection : Selection) : Except Raised Outcome :=
  match (Assets.ofSelection engine selection).run.value with
  | .ok assets => .ok (.success (State.document selection assets))
  | .error (.preview e) => .ok (.failure e.toFailure)
  | .error fault => .error fault

/-- What a selection comes to after an answer from outside: a document stands as it
is, and any other answer counts for nothing. -/
def outcomeAfter (engine : ScriptEngine) (selection : Selection) :
    Option Reply → Except Raised Outcome
  | some (.outcome (.success html)) => .ok (.success html)
  | _ => localOutcome engine selection

/-- Without a document from the compiler, the outcome is the one made here. -/
theorem outcomeAfter_of_no_success (engine : ScriptEngine) (selection : Selection)
    {answer : Option Reply} (none_found : ∀ html, answer ≠ some (.outcome (.success html))) :
    outcomeAfter engine selection answer = localOutcome engine selection := by
  unfold outcomeAfter
  split
  · next html => exact absurd rfl (none_found html)
  · rfl

/-- Assets are put into the page if there is no document from the compiler. -/
theorem assemble_of_assets {selection : Selection} {s : State} {assets : Assets}
    (none_found : ∀ html, s.remoteOutcome ≠ some (.outcome (.success html)))
    (built : s.assets = some assets) :
    s.assemble selection = s.finish (State.document selection assets) := by
  unfold State.assemble
  rw [built]
  split
  · next remote => exact absurd remote (none_found _)
  · next same _ => cases same; rfl
  · next none _ => cases none

/-- A build in this process ends with what the selection alone comes to, whatever
the run has noted before. -/
theorem outcome_runInProcess (engine : ScriptEngine) (selection : Selection) {s : State}
    (none_found : ∀ html, s.remoteOutcome ≠ some (.outcome (.success html))) :
    (runInProcess engine selection s).run.value.map (·.outcome) =
      (localOutcome engine selection).map some := by
  simp only [runInProcess, Build.value_bind, State.value_inProcess, localOutcome]
  cases (Assets.ofSelection engine selection).run.value with
  | ok assets =>
      let built : State := { s with stage := .inProcess, assets := some assets }
      change Except.ok (State.assemble selection built).outcome = _
      rw [assemble_of_assets (s := built) none_found rfl]
      rfl
  | error fault => cases fault <;> rfl

/-- What the compiler answers in a build of the selection, if there is one and the
entry needs it. -/
def answer? (compiler : Option Compiler) (selection : Selection) (files : SourceSet) :
    Option Reply :=
  if State.entryNeedsFullCompile selection then
    compiler.bind fun compiler =>
      State.answerOf (compiler selection.framework files).run.value
  else none

/-- Without a compiler there is no answer. -/
theorem answer?_none (selection : Selection) (files : SourceSet) :
    answer? none selection files = none := by
  simp [answer?]

/-- An answer is a document when a compiler is there, is needed and gives one. -/
theorem answer?_eq_success_iff {compiler : Option Compiler} {selection : Selection}
    {files : SourceSet} {html : String} :
    answer? compiler selection files = some (.outcome (.success html)) ↔
      State.entryNeedsFullCompile selection = true ∧ ∃ c, compiler = some c ∧
        (c selection.framework files).run.value = .ok (some (.outcome (.success html))) := by
  unfold answer?
  split
  · next complex =>
      rw [Option.bind_eq_some_iff, and_iff_right complex]
      refine exists_congr fun c => and_congr_right fun _ => ?_
      cases (c selection.framework files).run.value with
      | ok outcome => simp [State.answerOf]
      | error raised => simp [State.answerOf]
  · next simple =>
      constructor
      · intro given
        cases given
      · intro given
        exact absurd given.1 simple

private theorem outcome_runSelection (engine : ScriptEngine) (compiler : Option Compiler)
    (selection : Selection) {s : State} (unasked : s.remoteOutcome = none) :
    (runSelection engine compiler selection s).run.value.map (·.outcome) =
      (outcomeAfter engine selection (answer? compiler selection s.files)).map some := by
  have unheard : ∀ html, ({ s with
      stage := .classifying, needsFullCompile := State.entryNeedsFullCompile selection } :
        State).remoteOutcome ≠ some (.outcome (.success html)) := by
    intro html remote
    rw [unasked] at remote
    cases remote
  simp only [runSelection, Build.value_bind, State.value_classify, Except.bind, answer?]
  by_cases complex : State.entryNeedsFullCompile selection = true
  · cases compiler with
    | none =>
        simp only [complex, ↓reduceIte, Option.isSome_none, afterClassify, Bool.and_false]
        exact outcome_runInProcess engine selection unheard
    | some compiler =>
        simp only [complex, ↓reduceIte, Option.isSome_some, afterClassify, Bool.and_true,
          Build.value_bind, State.value_outOfProcess, Except.bind, Option.bind_some]
        generalize State.answerOf (compiler selection.framework s.files).run.value = answer
        -- Nothing that is no document is kept in the outcome, so all of it comes to the same.
        rcases answer with _ | (html | reason) | value
        · exact outcome_runInProcess engine selection (by simp)
        · rfl
        · exact outcome_runInProcess engine selection (by simp)
        · exact outcome_runInProcess engine selection (by simp)
  · simp only [complex, Bool.false_eq_true, ↓reduceIte, afterClassify, Bool.false_and]
    exact outcome_runInProcess engine selection unheard

/-- The outcome that the last state holds is the outcome of the build. -/
theorem bind_outcome_eq {final : Except Raised State} {expected : Except Raised Outcome}
    (same : final.map (·.outcome) = expected.map some) (unset : Outcome) :
    (final.bind fun s => .ok (s.outcome.getD unset)) = expected := by
  cases final with
  | error fault =>
      cases expected with
      | error other => cases same; rfl
      | ok outcome => cases same
  | ok s =>
      cases expected with
      | error other => cases same
      | ok outcome =>
          have held : s.outcome = some outcome := Except.ok.inj same
          simp only [Except.bind, held, Option.getD_some]

variable {engine : ScriptEngine} {compiler : Option Compiler} {id : String} {files : SourceSet}

/-- A build whose files cannot be chosen fails with the reason, and no compiler has
a part in it. -/
theorem value_compile_of_error {e : PreviewError}
    (chosen : (State.start id files).choose = .error e) :
    (compile engine compiler id files).run.value = .ok (.failure e.toFailure) := by
  simp only [compile, run, Build.value_bind, State.value_resolve_of_error chosen]
  rfl

/-- **What a build comes to.** The document of the compiler stands if it was asked
and gave one; otherwise the build comes to what its selection comes to in this
process. -/
theorem value_compile_of_ok {framework : Framework} {selection : Selection}
    (chosen : (State.start id files).choose = .ok (framework, selection)) :
    (compile engine compiler id files).run.value =
      outcomeAfter engine selection (answer? compiler selection files) := by
  have outcome := outcome_runSelection engine compiler selection
    (s := { State.start id files with
      stage := .resolving, framework := some framework, selection := some selection }) rfl
  simp only [compile, run, Build.value_bind, State.value_resolve_of_ok chosen, Except.bind,
    afterResolve]
  exact bind_outcome_eq outcome _

end WebPreview.Pipeline
