import WebPreview.Proofs.Pipeline.Consult

/-! # What can stop a build

A build is stopped by nothing but a fault that the script engine stops with on the entry of a
React project, and only if the fault is neither a refusal of the source nor an error of the build
itself (`WebPreview.Pipeline.compile_stops_iff`). Faults of a compiler count as its answer, and
refusals leave the source to the browser. With a script engine that does no more than refuse,
every build comes to an outcome (`WebPreview.Pipeline.exists_value_compile`).

No step has an answer to such a fault of the engine, so that it reaches the caller
(`WebPreview.Pipeline.compile_stops_raising`).
-/

namespace WebPreview

/-- The engine turns every source into a script or refuses it, and stops with no other
fault. -/
def ScriptEngine.OnlyRefuses (engine : ScriptEngine) : Prop :=
  ∀ source fault, engine source = .error fault → ∃ message, fault = .scriptEngine message

/-- The fault is none of those that a build answers: no refusal of a source, and no error of the
build itself. -/
structure Raised.Foreign (fault : Raised) : Prop where
  unrefused : ∀ message, fault ≠ .scriptEngine message
  unexplained : ∀ e, fault ≠ .preview e

namespace Assets

variable {engine : ScriptEngine} {fault : Raised}

/-- A fault of the engine stops a React build, unless it is a refusal or already the error that a
refusal becomes. -/
theorem value_ofReact_eq_error_iff {entry : SourceFile} {style : Option String} :
    (ofReact engine entry style).run.value = .error fault ↔
      engine entry.content = .error fault ∧ (∀ message, fault ≠ .scriptEngine message) ∧
        ∀ message file, fault ≠ .preview ⟨.transform, message, file⟩ := by
  unfold ofReact
  split
  · next code compiled =>
      refine iff_of_false nofun fun stopped => ?_
      unfold compileScript at compiled
      rw [stopped.1] at compiled
      split at compiled
      · cases compiled
      · cases compiled
  · next message file compiled =>
      refine iff_of_false nofun fun stopped => ?_
      unfold compileScript at compiled
      split at compiled
      · next refused => exact stopped.2.1 _ (Except.error.inj (stopped.1.symm.trans refused))
      · exact stopped.2.2 _ _ (Except.error.inj (stopped.1.symm.trans compiled))
  · next raised unlike compiled =>
      unfold compileScript at compiled
      split at compiled
      · cases compiled
        exact absurd rfl (unlike _ _)
      · next notRefused =>
          rw [Build.value_throw, compiled, Except.error.injEq, Except.error.injEq]
          refine ⟨?_, fun stopped => stopped.1⟩
          rintro rfl
          exact ⟨rfl, fun message other => notRefused message (other ▸ compiled), unlike⟩

private theorem value_ofSelection_eq_error_iff {s : Selection} :
    (ofSelection engine s).run.value = .error fault ↔
      s.framework = .react ∧ ∃ entry, s.entry = some entry ∧
        (ofReact engine entry (s.style.map (·.content))).run.value = .error fault := by
  unfold ofSelection
  split
  · next none => exact iff_of_false nofun fun stopped => by simp [none] at stopped
  · next vanilla _ => exact iff_of_false nofun fun stopped => by simp [vanilla] at stopped
  · next entry react here => simp [react, here]
  · next entry vue _ =>
      refine iff_of_false ?_ fun stopped => by simp [vue] at stopped
      split <;> exact nofun
  · next entry svelte _ =>
      refine iff_of_false ?_ fun stopped => by simp [svelte] at stopped
      split <;> exact nofun

/-- An engine that only refuses leaves every selection with a script and a style. -/
theorem exists_value_ofSelection (refuses : engine.OnlyRefuses) (s : Selection) :
    ∃ assets, (ofSelection engine s).run.value = .ok assets := by
  cases value : (ofSelection engine s).run.value with
  | ok assets => exact ⟨assets, rfl⟩
  | error fault =>
      obtain ⟨-, entry, -, stopped⟩ := value_ofSelection_eq_error_iff.1 value
      obtain ⟨raised, unrefused, -⟩ := value_ofReact_eq_error_iff.1 stopped
      obtain ⟨message, same⟩ := refuses _ _ raised
      exact absurd same (unrefused message)

end Assets

namespace Pipeline

variable {engine : ScriptEngine} {fault : Raised}

private theorem localOutcome_eq_error_iff {s : Selection} :
    localOutcome engine s = .error fault ↔
      s.framework = .react ∧ ∃ entry, s.entry = some entry ∧
        engine entry.content = .error fault ∧ fault.Foreign := by
  have stopped : localOutcome engine s = .error fault ↔
      (Assets.ofSelection engine s).run.value = .error fault ∧ ∀ e, fault ≠ .preview e := by
    unfold localOutcome
    split
    · next built => simp [built]
    · next e built =>
        refine iff_of_false nofun fun stopped => ?_
        exact stopped.2 e (Except.error.inj (stopped.1.symm.trans built))
    · next raised unlike built =>
        rw [built, Except.error.injEq, Except.error.injEq]
        refine ⟨?_, fun stopped => stopped.1⟩
        rintro rfl
        exact ⟨rfl, unlike⟩
  rw [stopped, Assets.value_ofSelection_eq_error_iff]
  constructor
  · rintro ⟨⟨react, entry, here, value⟩, unexplained⟩
    obtain ⟨raised, unrefused, -⟩ := Assets.value_ofReact_eq_error_iff.1 value
    exact ⟨react, entry, here, raised, unrefused, unexplained⟩
  · rintro ⟨react, entry, here, raised, unrefused, unexplained⟩
    refine ⟨⟨react, entry, here, Assets.value_ofReact_eq_error_iff.2 ⟨raised, unrefused, ?_⟩⟩,
      unexplained⟩
    exact fun message file => unexplained ⟨.transform, message, file⟩

/-- With an engine that only refuses, a selection comes to a document in this process. -/
theorem exists_localOutcome (refuses : engine.OnlyRefuses) (s : Selection) :
    ∃ html, localOutcome engine s = .ok (.success html) := by
  obtain ⟨assets, built⟩ := Assets.exists_value_ofSelection refuses s
  exact ⟨State.document s assets, by simp only [localOutcome, built]⟩

private theorem outcomeAfter_eq_error_iff {s : Selection} {answer : Option Reply} :
    outcomeAfter engine s answer = .error fault ↔
      (∀ html, answer ≠ some (.outcome (.success html))) ∧
        localOutcome engine s = .error fault := by
  unfold outcomeAfter
  split
  · next html => exact iff_of_false nofun fun stopped => stopped.1 html rfl
  · next other => exact (and_iff_right other).symm

variable {compiler : Option Compiler} {id : String} {files : SourceSet}

/-- With an engine that only refuses and no compiler, files that can be chosen come to a
document. -/
theorem exists_document_of_choose (refuses : engine.OnlyRefuses) {framework : Framework}
    {s : Selection} (chosen : (State.start id files).choose = .ok (framework, s)) :
    ∃ html, (compile engine none id files).run.value = .ok (.success html) := by
  obtain ⟨html, built⟩ := exists_localOutcome refuses s
  rw [value_compile_of_ok chosen, answer?_none]
  exact ⟨html, built⟩

/-- With a script engine that only refuses, every build comes to an outcome. -/
theorem exists_value_compile (refuses : engine.OnlyRefuses) (compiler : Option Compiler)
    (id : String) (files : SourceSet) :
    ∃ outcome, (compile engine compiler id files).run.value = .ok outcome := by
  cases chosen : (State.start id files).choose with
  | error e => exact ⟨_, value_compile_of_error chosen⟩
  | ok found =>
      obtain ⟨framework, s⟩ := found
      rw [value_compile_of_ok chosen]
      cases value : outcomeAfter engine s (answer? compiler s files) with
      | ok outcome => exact ⟨outcome, rfl⟩
      | error fault =>
          obtain ⟨html, built⟩ := exists_localOutcome refuses s
          cases built.symm.trans (outcomeAfter_eq_error_iff.1 value).2

/-- The fault stops a build: the project is a React project whose files can be chosen, the script
engine stops with the fault on the entry, no compiler that is asked has a document instead, and
the fault is none that a build answers. -/
structure Stops (engine : ScriptEngine) (compiler : Option Compiler) (id : String)
    (files : SourceSet) (fault : Raised) : Prop where
  named : Framework.parse id = .ok .react
  raised : ∃ s entry, Selection.resolve .react files = .ok s ∧ s.entry = some entry ∧
    engine entry.content = .error fault
  undocumented : ∀ c, compiler = some c → Asks id files .react →
    ∀ html, (c .react files).run.value ≠ .ok (some (.outcome (.success html)))
  foreign : fault.Foreign

private theorem not_stops_of_choose_eq_error {e : PreviewError}
    (chosen : (State.start id files).choose = .error e) :
    ¬Stops engine compiler id files fault := by
  intro stops
  obtain ⟨s, -, resolved, -⟩ := stops.raised
  have other := choose_eq_ok_iff.2 ⟨stops.named, resolved⟩
  cases chosen.symm.trans other

private theorem stops_iff_of_choose_eq_ok {framework : Framework} {s : Selection}
    (chosen : (State.start id files).choose = .ok (framework, s)) :
    Stops engine compiler id files fault ↔
      (∀ html, answer? compiler s files ≠ some (.outcome (.success html))) ∧
        localOutcome engine s = .error fault := by
  obtain ⟨named, resolved⟩ := choose_eq_ok_iff.1 chosen
  obtain rfl := Selection.framework_of_resolve resolved
  rw [localOutcome_eq_error_iff]
  constructor
  · intro stops
    obtain ⟨other, entry, also, here, raised⟩ := stops.raised
    have react : s.framework = .react := Except.ok.inj (named.symm.trans stops.named)
    obtain rfl := Except.ok.inj ((react ▸ resolved).symm.trans also)
    refine ⟨?_, react, entry, here, raised, stops.foreign⟩
    intro html answered
    obtain ⟨complex, c, given, document⟩ := answer?_eq_success_iff.1 answered
    have asks : Asks id files .react := asks_iff.2 ⟨s, react ▸ chosen, react, complex⟩
    exact stops.undocumented c given asks html (react ▸ document)
  · rintro ⟨unanswered, react, entry, here, raised, foreign⟩
    refine ⟨react ▸ named, ⟨s, entry, react ▸ resolved, here, raised⟩, ?_, foreign⟩
    intro c given asks html document
    obtain ⟨other, also, -, complex⟩ := asks_iff.1 asks
    obtain ⟨-, rfl⟩ := Prod.mk.inj (Except.ok.inj (chosen.symm.trans also))
    exact unanswered html (answer?_eq_success_iff.2 ⟨complex, c, given, react ▸ document⟩)

/-- **What stops a build.** A build stops with a fault exactly if the script engine stops with it
on the entry of a React project, no compiler has a document instead, and it is neither a refusal
nor an error of the build. In every other case the build comes to an outcome. -/
theorem compile_stops_iff (engine : ScriptEngine) (compiler : Option Compiler) (id : String)
    (files : SourceSet) :
    (∀ fault, (compile engine compiler id files).run.value = .error fault ↔
      Stops engine compiler id files fault) ∧
    ((∀ fault, ¬Stops engine compiler id files fault) →
      ∃ outcome, (compile engine compiler id files).run.value = .ok outcome) := by
  have stopped (fault : Raised) : (compile engine compiler id files).run.value = .error fault ↔
      Stops engine compiler id files fault := by
    cases chosen : (State.start id files).choose with
    | error e =>
        rw [value_compile_of_error chosen]
        exact iff_of_false nofun (not_stops_of_choose_eq_error chosen)
    | ok found =>
        obtain ⟨framework, s⟩ := found
        rw [value_compile_of_ok chosen, outcomeAfter_eq_error_iff, stops_iff_of_choose_eq_ok chosen]
  refine ⟨stopped, fun unstopped => ?_⟩
  cases value : (compile engine compiler id files).run.value with
  | ok outcome => exact ⟨outcome, rfl⟩
  | error fault => exact absurd ((stopped fault).1 value) (unstopped fault)

/-- A script engine that would break down stops no build that a compiler has a document for. -/
theorem compile_stops_iff_giving :
    let raising : ScriptEngine := fun _ => .error (.other "RuntimeError" "no memory")
    let giving : Compiler := fun _ _ => pure (some (.outcome (.success "<p>b</p>")))
    (∀ fault, ¬Stops raising (some giving) "react" importing fault) ∧
      ∃ outcome, (compile raising (some giving) "react" importing).run.value = .ok outcome := by
  intro raising giving
  have asks : Asks "react" importing .react := ⟨rfl, _, _, rfl, rfl, rfl⟩
  have unstopped : ∀ fault, ¬Stops raising (some giving) "react" importing fault :=
    fun _ stops => stops.undocumented giving rfl asks _ rfl
  exact ⟨unstopped, (compile_stops_iff raising (some giving) "react" importing).2 unstopped⟩

/-- A script engine that breaks down stops the build of a project that is in order. -/
theorem compile_stops_raising :
    let raising : ScriptEngine := fun _ => .error (.other "RuntimeError" "no memory")
    (compile raising none "react" importing).run.value =
        .error (.other "RuntimeError" "no memory") ∧
      ¬∃ outcome, (compile raising none "react" importing).run.value = .ok outcome := by
  intro raising
  have stopped : (compile raising none "react" importing).run.value =
      .error (.other "RuntimeError" "no memory") := rfl
  refine ⟨stopped, ?_⟩
  rintro ⟨outcome, value⟩
  cases stopped.symm.trans value

end Pipeline

end WebPreview
