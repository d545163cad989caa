import WebPreview.Proofs.Pipeline.Steps
import WebPreview.Proofs.Selection.Resolve

/-! # When a compiler is consulted, and what of it counts

A compiler outside of the process is consulted about a source set exactly when the
framework is known, its files can be chosen, and the entry needs the full compiler
(`WebPreview.Pipeline.Asks`). It is then consulted once, about the framework and
all the files, and only a document that it gives has a part in the outcome
(`WebPreview.Pipeline.compile_with_compiler`).
-/

namespace WebPreview

/-- A framework is parsed from its identifier. -/
theorem Framework.parse_id (framework : Framework) :
    parse framework.id = .ok framework := by
  cases framework <;> rfl

namespace Pipeline

/-- A build of the source set would ask a compiler for this framework: the
identifier names it, its files can be chosen, and there is an entry, which needs
the full compiler. -/
structure Asks (id : String) (files : SourceSet) (framework : Framework) : Prop where
  named : Framework.parse id = .ok framework
  complex : ∃ selection entry, Selection.resolve framework files = .ok selection ∧
    selection.entry = some entry ∧
      Complexity.needsFullCompile entry.content framework = true

/-- Choosing the files succeeds when the framework is known and its files are there. -/
theorem choose_eq_ok_iff {id : String} {files : SourceSet} {framework : Framework}
    {selection : Selection} :
    (State.start id files).choose = .ok (framework, selection) ↔
      Framework.parse id = .ok framework ∧
        Selection.resolve framework files = .ok selection := by
  simp only [State.choose, Except.bind_eq_ok_iff, Except.mapError_eq_ok_iff]
  constructor
  · rintro ⟨_, named, _, resolved, same⟩
    cases same
    exact ⟨named, resolved⟩
  · rintro ⟨named, resolved⟩
    exact ⟨_, named, _, resolved, rfl⟩

/-- The compiler is to be asked exactly if the files resolve and the entry needs it. -/
theorem asks_iff {id : String} {files : SourceSet} {framework : Framework} :
    Asks id files framework ↔
      ∃ selection, (State.start id files).choose = .ok (framework, selection) ∧
        selection.framework = framework ∧ State.entryNeedsFullCompile selection = true := by
  constructor
  · rintro ⟨named, selection, entry, resolved, here, complex⟩
    obtain rfl := Selection.framework_of_resolve resolved
    refine ⟨selection, choose_eq_ok_iff.2 ⟨named, resolved⟩, rfl, ?_⟩
    simp only [State.entryNeedsFullCompile, here, Option.any_some, complex]
  · rintro ⟨selection, chosen, rfl, complex⟩
    obtain ⟨named, resolved⟩ := choose_eq_ok_iff.1 chosen
    obtain ⟨entry, here, complex⟩ := (Option.any_eq_true _ _).1 complex
    exact ⟨named, selection, entry, resolved, here, complex⟩

namespace State

private theorem emits_failWith (s : State) (reason : Failure) :
    Build.Emits Event.IsLog (s.failWith reason) :=
  .bind (.log trivial) fun _ _ => .pure _

/-- Resolving only logs. -/
theorem emits_resolve (s : State) : Build.Emits Event.IsLog s.resolve := by
  simp only [resolve]
  split
  · exact emits_failWith _ _
  · exact .bind (.log trivial) fun _ _ => .pure _

/-- Classifying only logs. -/
theorem emits_classify (selection : Selection) (s : State) :
    Build.Emits Event.IsLog (s.classify selection) :=
  .bind (.log trivial) fun _ _ => .pure _

end State

/-- Building script and style in this process only writes to the log. -/
theorem emits_ofSelection (engine : ScriptEngine) (selection : Selection) :
    Build.Emits Event.IsLog (Assets.ofSelection engine selection) := by
  unfold Assets.ofSelection
  split
  · exact .pure _
  · exact .pure _
  · unfold Assets.ofReact
    split
    · exact .pure _
    · exact .bind (.log trivial) fun _ _ => .pure _
    · exact .throw _
  · split <;> exact .pure _
  · split <;> exact .pure _

private theorem emits_inProcess (engine : ScriptEngine) (selection : Selection) (s : State) :
    Build.Emits Event.IsLog (s.inProcess engine selection) := by
  refine .bind (.attempt (emits_ofSelection engine selection)) fun result _ => ?_
  split
  · split
    · exact .bind (.log trivial) fun _ _ => .pure _
    · exact .pure _
  · exact State.emits_failWith _ _
  · exact .throw _

/-- Building in process only logs. -/
theorem emits_runInProcess (engine : ScriptEngine) (selection : Selection) (s : State) :
    Build.Emits Event.IsLog (runInProcess engine selection s) := by
  refine .bind (emits_inProcess engine selection s) fun s _ => ?_
  split <;> exact .pure _

/-- The step consults the compiler once, about the framework and the files. What
the compiler itself leaves behind comes right after, and apart from that the step
only writes to the log. -/
def ConsultsOnce {α : Type} (compiler : Compiler) (framework : Framework) (files : SourceSet)
    (step : Build α) : Prop :=
  ∃ before after, step.run.trace =
      before ++ .consult framework files :: ((compiler framework files).run.trace ++ after) ∧
    ∀ event ∈ before ++ after, event.IsLog

namespace ConsultsOnce

variable {α β : Type} {compiler : Compiler} {framework : Framework} {files : SourceSet}

/-- A step that consults once still does with log records behind it. -/
theorem then_logs {step : Build α} {next : α → Build β}
    (first : ConsultsOnce compiler framework files step)
    (second : ∀ a, step.run.value = .ok a → Build.Emits Event.IsLog (next a)) :
    ConsultsOnce compiler framework files (step >>= next) := by
  obtain ⟨before, after, trace, logs⟩ := first
  cases value : step.run.value with
  | ok a =>
      refine ⟨before, after ++ (next a).run.trace, ?_, ?_⟩
      · rw [Build.trace_bind_of_ok value, trace]
        simp only [List.append_assoc, List.cons_append]
      · intro event member
        rw [← List.append_assoc, List.mem_append] at member
        exact member.elim (logs event) (second a value event)
  | error fault =>
      refine ⟨before, after, ?_, logs⟩
      rw [Build.trace_bind, value, trace]
      exact List.append_nil _

/-- A step that consults once still does with log records in front of it. -/
theorem after_logs {step : Build α} {next : α → Build β} {a : α}
    (first : Build.Emits Event.IsLog step) (value : step.run.value = .ok a)
    (second : ConsultsOnce compiler framework files (next a)) :
    ConsultsOnce compiler framework files (step >>= next) := by
  obtain ⟨before, after, trace, logs⟩ := second
  refine ⟨step.run.trace ++ before, after, ?_, ?_⟩
  · rw [Build.trace_bind_of_ok value, trace]
    simp only [List.append_assoc]
  · intro event member
    rw [List.append_assoc, List.mem_append] at member
    exact member.elim (first event) (logs event)

private theorem consult (compiler : Compiler) (framework : Framework) (files : SourceSet) :
    ConsultsOnce compiler framework files (State.consult compiler framework files) := by
  have asked : ConsultsOnce compiler framework files
      (Build.emit (.consult framework files) >>= fun _ =>
        Build.attempt (compiler framework files)) := by
    refine ⟨[], [], ?_, by simp⟩
    rw [Build.trace_bind_of_ok (Build.value_emit _), Build.trace_attempt, List.append_nil]
    rfl
  unfold State.consult
  rw [← bind_assoc]
  refine asked.then_logs fun result _ => ?_
  cases result with
  | ok outcome => exact .pure _
  | error fault => exact .bind (.log trivial) fun _ _ => .pure _

/-- The step out of process consults once. -/
theorem outOfProcess (compiler : Compiler) (selection : Selection) (s : State) :
    ConsultsOnce compiler selection.framework s.files (s.outOfProcess compiler selection) := by
  refine (consult compiler selection.framework s.files).then_logs fun outcome _ => ?_
  rcases outcome with _ | (html | reason) | value
  · exact .pure _
  · exact .pure _
  · exact .bind (.log trivial) fun _ _ => .pure _
  · exact .pure _

end ConsultsOnce

private theorem consultsOnce_runSelection (engine : ScriptEngine) (compiler : Compiler)
    (selection : Selection) (s : State) (complex : State.entryNeedsFullCompile selection = true) :
    ConsultsOnce compiler selection.framework s.files
      (runSelection engine (some compiler) selection s) := by
  refine .after_logs (State.emits_classify selection s) (State.value_classify selection s) ?_
  simp only [complex, Option.isSome_some, afterClassify, Bool.and_true, ↓reduceIte]
  refine (ConsultsOnce.outOfProcess compiler selection _).then_logs fun s _ => ?_
  split
  · exact .pure _
  · exact emits_runInProcess engine selection s

private theorem emits_runSelection (engine : ScriptEngine) (compiler : Option Compiler)
    (selection : Selection) (s : State)
    (unasked : State.entryNeedsFullCompile selection = false ∨ compiler = none) :
    Build.Emits Event.IsLog (runSelection engine compiler selection s) := by
  refine .bind (State.emits_classify selection s) fun classified value => ?_
  rw [State.value_classify] at value
  cases value
  have route : afterClassify (State.entryNeedsFullCompile selection) compiler.isSome =
      .inProcess := by
    rcases unasked with simple | rfl
    · rw [simple]; rfl
    · simp [afterClassify]
  simp only [route]
  exact emits_runInProcess engine selection _

section Compile

variable {engine : ScriptEngine} {id : String} {files : SourceSet}

/-- A build that would ask nobody only writes to the log. -/
theorem emits_compile_of_unasked (compiler : Option Compiler)
    (unasked : ∀ framework, ¬Asks id files framework) :
    Build.Emits Event.IsLog (compile engine compiler id files) := by
  refine .bind (.bind (State.emits_resolve _) fun s value => ?_) fun _ _ => .pure _
  cases chosen : (State.start id files).choose with
  | error e =>
      rw [State.value_resolve_of_error chosen] at value
      cases value
      exact .pure _
  | ok found =>
      obtain ⟨framework, selection⟩ := found
      rw [State.value_resolve_of_ok chosen] at value
      cases value
      refine emits_runSelection engine compiler selection _ (.inl (Bool.eq_false_iff.2 ?_))
      intro complex
      have same := Selection.framework_of_resolve (choose_eq_ok_iff.1 chosen).2
      exact unasked framework (asks_iff.2 ⟨selection, chosen, same, complex⟩)

/-- A build that would ask a compiler, and has one, consults it once. -/
theorem consultsOnce_compile (compiler : Compiler) {framework : Framework}
    (asks : Asks id files framework) :
    ConsultsOnce compiler framework files (compile engine (some compiler) id files) := by
  obtain ⟨selection, chosen, rfl, complex⟩ := asks_iff.1 asks
  refine ConsultsOnce.then_logs (.after_logs (State.emits_resolve _)
    (State.value_resolve_of_ok chosen) ?_) fun _ _ => .pure _
  exact consultsOnce_runSelection engine compiler selection _ complex

/-- A compiler that gave no document leaves the outcome as it is without one. -/
theorem value_compile_eq_of_no_success (compiler : Compiler)
    (none_found : ∀ framework, Asks id files framework → ∀ html,
      (compiler framework files).run.value ≠ .ok (some (.outcome (.success html)))) :
    (compile engine (some compiler) id files).run.value =
      (compile engine none id files).run.value := by
  cases chosen : (State.start id files).choose with
  | error e => rw [value_compile_of_error chosen, value_compile_of_error chosen]
  | ok found =>
      obtain ⟨framework, selection⟩ := found
      have unanswered (html : String) :
          answer? (some compiler) selection files ≠ some (.outcome (.success html)) := by
        intro answered
        obtain ⟨complex, other, given, document⟩ := answer?_eq_success_iff.1 answered
        cases given
        obtain rfl := Selection.framework_of_resolve (choose_eq_ok_iff.1 chosen).2
        exact none_found _ (asks_iff.2 ⟨selection, chosen, rfl, complex⟩) html document
      rw [value_compile_of_ok chosen, value_compile_of_ok chosen, answer?_none,
        outcomeAfter_of_no_success engine selection unanswered]
      rfl

/-- **What a compiler has a part in.** A build comes to exactly the document that
its compiler gives if the framework is known, the files can be chosen, the entry
needs the full compiler and the compiler gives one. In every other case, whether
the compiler fails, raises a fault, gives nothing or is not asked, the build comes
to the same outcome, or stops with the same fault, as without a compiler. The
compiler is consulted once if the build would ask one, about the framework that the
identifier names and all the files, and otherwise not at all. -/
theorem compile_with_compiler (engine : ScriptEngine) (compiler : Compiler) (id : String)
    (files : SourceSet) :
    (∀ framework html, Asks id files framework →
      (compiler framework files).run.value = .ok (some (.outcome (.success html))) →
        (compile engine (some compiler) id files).run.value = .ok (.success html)) ∧
    ((∀ framework, Asks id files framework → ∀ html,
      (compiler framework files).run.value ≠ .ok (some (.outcome (.success html)))) →
        (compile engine (some compiler) id files).run.value =
          (compile engine none id files).run.value) ∧
    (∀ framework, Asks id files framework →
      ConsultsOnce compiler framework files (compile engine (some compiler) id files)) ∧
    ((∀ framework, ¬Asks id files framework) →
      Build.Emits Event.IsLog (compile engine (some compiler) id files)) := by
  refine ⟨?_, value_compile_eq_of_no_success compiler, fun _ => consultsOnce_compile compiler,
    emits_compile_of_unasked (some compiler)⟩
  intro framework html asks value
  obtain ⟨selection, chosen, rfl, complex⟩ := asks_iff.1 asks
  rw [value_compile_of_ok chosen]
  simp only [answer?, complex, ↓reduceIte, Option.bind_some, value, State.answerOf, outcomeAfter]

/-- A page and an entry that imports, which needs the full compiler. -/
def importing : SourceSet := .ofContents [("index.html", ""), ("a.jsx", "import 'b'")]

/-- An entry that imports goes to its compiler: the document of the compiler stands,
and a compiler that raises a fault counts for nothing. -/
theorem compile_with_compiler_importing :
    let giving : Compiler := fun _ _ => pure (some (.outcome (.success "<p>b</p>")))
    let raising : Compiler := fun _ _ => throw (.other "OSError" "gone")
    Asks "react" importing .react ∧
      (compile .ok (some giving) "react" importing).run.value = .ok (.success "<p>b</p>") ∧
      (compile .ok (some raising) "react" importing).run.value =
        (compile .ok none "react" importing).run.value := by
  intro giving raising
  have asks : Asks "react" importing .react := ⟨rfl, _, _, rfl, rfl, rfl⟩
  refine ⟨asks, (compile_with_compiler .ok giving "react" importing).1 .react _ asks rfl,
    (compile_with_compiler .ok raising "react" importing).2.1 ?_⟩
  intro framework _ html value
  cases value

end Compile

end Pipeline

end WebPreview
