import WebPreview.Proofs.Assets.Made
import WebPreview.Proofs.Complexity.Growth
import WebPreview.Proofs.Component.Blocks
import WebPreview.Proofs.Pipeline.Record

/-! # When a component is taken apart

Taking a component apart by its tags is the last resort. What makes the template of a component
worth anything is an opening tag, and that tag alone makes its source complex
(`WebPreview.Complexity.needsFullCompile_of_template`). So a run with a compiler has asked it
before it builds anything from the blocks, and what it builds from them stands only if the
compiler had no document (`WebPreview.Pipeline.consults_before_extraction`).
-/

namespace WebPreview

open Text

namespace Complexity

variable {name cs body : List Char}

private theorem exists_suffix_of_afterFirstTag?
    (found : Component.afterFirstTag? name cs = some body) :
    ∃ tail, tail <:+ cs ∧ Component.afterTag? name tail = some body := by
  induction cs with
  | nil => cases found
  | cons c cs ih =>
      rw [Component.afterFirstTag?, Option.or_eq_some_iff] at found
      rcases found with here | ⟨-, later⟩
      · exact ⟨c :: cs, List.suffix_rfl, here⟩
      · obtain ⟨tail, behind, opened⟩ := ih later
        exact ⟨tail, behind.trans (List.suffix_cons c cs), opened⟩

/-- Where a block is opened there is a tag. -/
theorem hasTag_of_afterFirstTag? {name : String}
    (found : Component.afterFirstTag? name.toList cs = some body) :
    hasTag ("<" ++ name) cs = true := by
  obtain ⟨tail, behind, opened⟩ := exists_suffix_of_afterFirstTag? found
  refine anyTail_iff.2 ⟨tail, behind, ?_⟩
  have opening : ("<" ++ name).toList = '<' :: name.toList := by
    rw [String.toList_append]
    rfl
  rw [opening]
  unfold Component.afterTag? at opened
  split at opened
  · next tagged =>
      rw [tagged]
      rfl
  · next tagged =>
      rw [Option.ite_none_right_eq_some] at opened
      rw [tagged]
      dsimp only
      rw [opened.1, Bool.true_or]
  · cases opened

/-- A component in which a template is found needs the full compiler. -/
theorem needsFullCompile_of_template {source : String}
    (template : (Component.ofSource source).template ≠ "") :
    needsFullCompile source .vue = true := by
  have found : ∃ block, Component.widestBlock? "template".toList source.toList = some block := by
    rw [← Option.isSome_iff_exists, Option.isSome_iff_ne_none]
    intro missing
    refine template ?_
    change Component.blockText (Component.widestBlock? _ _) = ""
    rw [missing]
    rfl
  obtain ⟨block, found⟩ := found
  obtain ⟨body, -, opened, -⟩ := Component.widestBlock?_eq_some_iff.1 found
  have tagged : hasTag "<template" source.toList = true := hasTag_of_afterFirstTag? opened
  rw [needsFullCompile, tagged, Bool.true_or]

end Complexity

namespace Pipeline

/-- A run up to the answer of its compiler. -/
def runToAnswer (compiler : Compiler) (id : String) (files : SourceSet) (selection : Selection) :
    Build State := do
  let s ← (State.start id files).resolve
  let s ← s.classify selection
  s.outOfProcess compiler selection

/-- A run from the answer of its compiler to its end. -/
def runFromAnswer (engine : ScriptEngine) (selection : Selection) (s : State) : Build State :=
  match afterOutOfProcess s.remoteOutcome with
  | .assemble => return s.assemble selection
  | _ => runInProcess engine selection s

variable {id : String} {files : SourceSet} {framework : Framework} {selection : Selection}

private theorem runSelection_eq_of_complex (engine : ScriptEngine) (compiler : Compiler)
    (complex : State.entryNeedsFullCompile selection = true) (s : State) :
    runSelection engine (some compiler) selection s =
      s.classify selection >>= fun s =>
        s.outOfProcess compiler selection >>= runFromAnswer engine selection := by
  simp only [runSelection, State.classify, bind_assoc, pure_bind, complex]
  rfl

/-- A run that asks its compiler is the two halves one after the other. -/
theorem run_eq_of_complex (engine : ScriptEngine) (compiler : Compiler)
    (chosen : (State.start id files).choose = .ok (framework, selection))
    (complex : State.entryNeedsFullCompile selection = true) :
    run engine (some compiler) id files =
      runToAnswer compiler id files selection >>= runFromAnswer engine selection := by
  have chosen' : ({ State.start id files with stage := .resolving } : State).choose =
      .ok (framework, selection) := chosen
  simp only [run, runToAnswer, State.resolve, chosen', bind_assoc, pure_bind, afterResolve]
  exact bind_congr fun _ => runSelection_eq_of_complex engine compiler complex _

private theorem consultsOnce_runToAnswer (compiler : Compiler)
    (chosen : (State.start id files).choose = .ok (framework, selection)) :
    ConsultsOnce compiler selection.framework files
      (runToAnswer compiler id files selection) := by
  refine .after_logs (State.emits_resolve _) (State.value_resolve_of_ok chosen) ?_
  refine .after_logs (State.emits_classify selection _) (State.value_classify selection _) ?_
  exact .outOfProcess compiler selection _

private theorem emits_runFromAnswer (engine : ScriptEngine) (selection : Selection) (s : State) :
    Build.Emits Event.IsLog (runFromAnswer engine selection s) := by
  unfold runFromAnswer
  split
  · exact .pure _
  · exact emits_runInProcess engine selection s

/-- When the compiler has answered nothing is built yet. -/
theorem exists_value_runToAnswer (compiler : Compiler)
    (chosen : (State.start id files).choose = .ok (framework, selection))
    (complex : State.entryNeedsFullCompile selection = true) :
    ∃ s, (runToAnswer compiler id files selection).run.value = .ok s ∧
      Underway (some compiler) id files selection s ∧
      s.remoteOutcome = State.answerOf (compiler selection.framework files).run.value := by
  have underway : Underway (some compiler) id files selection _ := .chosen chosen
  have classified := underway.classified rfl (State.entryNeedsFullCompile selection)
  refine ⟨_, ?_, classified.heard rfl (Option.some_ne_none compiler) complex _,
    State.remoteOutcome_heard _ _⟩
  simp only [runToAnswer, Build.value_bind, State.value_resolve_of_ok chosen, Except.bind,
    State.value_classify, State.value_outOfProcess]
  rfl

/-- From the answer on, a document of the compiler is the outcome and nothing is built. Without
one the run ends with the script and the style that are built here. -/
theorem exists_value_runFromAnswer (engine : ScriptEngine) {s : State} {assets : Assets}
    (unbuilt : s.assets = none)
    (made : (Assets.ofSelection engine selection).run.value = .ok assets) :
    ∃ final, (runFromAnswer engine selection s).run.value = .ok final ∧
      (∀ html, s.remoteOutcome = some (.outcome (.success html)) →
        final.outcome = some (.success html) ∧ final.assets = none) ∧
      ((∀ html, s.remoteOutcome ≠ some (.outcome (.success html))) →
        final.assets = some assets) := by
  unfold runFromAnswer
  split
  · next document =>
      obtain ⟨html, answered⟩ := afterOutOfProcess_eq_assemble_iff.1 document
      have finished : s.assemble selection = s.finish html := by
        simp only [State.assemble, answered]
      refine ⟨s.finish html, congrArg Except.ok finished, ?_, ?_⟩
      · intro other answered'
        cases answered.symm.trans answered'
        exact ⟨rfl, unbuilt⟩
      · intro none_found
        exact absurd answered (none_found html)
  · next other =>
      have none_found : ∀ html, s.remoteOutcome ≠ some (.outcome (.success html)) := by
        intro html answered
        exact other (afterOutOfProcess_eq_assemble_iff.2 ⟨html, answered⟩)
      let built : State := { s with stage := .inProcess, assets := some assets }
      refine ⟨built.finish (State.document selection assets), ?_, ?_, fun _ => rfl⟩
      · simp only [runInProcess, Build.value_bind, State.value_inProcess, made, State.builtHere]
        exact congrArg Except.ok (assemble_of_assets (s := built) none_found rfl)
      · intro html answered
        exact absurd answered (none_found html)

/-- A Vue project whose entry is a component in which a template is found. -/
structure BuildsTemplate (id : String) (files : SourceSet) (selection : Selection)
    (entry : SourceFile) : Prop where
  named : Framework.parse id = .ok .vue
  resolved : Selection.resolve .vue files = .ok selection
  here : selection.entry = some entry
  component : selection.entryIsComponent = true
  template : (Component.ofSource entry.content).template ≠ ""

/-- **The compiler is asked first.** The entry of a Vue project that has a template needs the full
compiler. A run with a compiler consults it once, in its first half, at whose end nothing is built
yet. The second half consults nobody, and it alone takes the component apart: if the compiler had
a document, that is the outcome and nothing is built here, and if it had none, the script made of
the blocks is taken. -/
theorem consults_before_extraction (engine : ScriptEngine) (compiler : Compiler) {id : String}
    {files : SourceSet} {selection : Selection} {entry : SourceFile}
    (builds : BuildsTemplate id files selection entry) :
    Complexity.needsFullCompile entry.content .vue = true ∧
      ConsultsOnce compiler .vue files (run engine (some compiler) id files) ∧
      ConsultsOnce compiler .vue files (runToAnswer compiler id files selection) ∧
      run engine (some compiler) id files =
        runToAnswer compiler id files selection >>= runFromAnswer engine selection ∧
      ∃ heard final, (runToAnswer compiler id files selection).run.value = .ok heard ∧
        (run engine (some compiler) id files).run.value = .ok final ∧
        heard.remoteOutcome = State.answerOf (compiler .vue files).run.value ∧
        heard.assets = none ∧ heard.outcome = none ∧
        (∀ html, heard.remoteOutcome = some (.outcome (.success html)) →
          final.outcome = some (.success html) ∧ final.assets = none) ∧
        ((∀ html, heard.remoteOutcome ≠ some (.outcome (.success html))) →
          final.assets.bind Assets.script = some (Component.ofSource entry.content).toScript) := by
  obtain ⟨named, resolved, here, component, template⟩ := builds
  have vue := Selection.framework_of_resolve resolved
  have chosen := choose_eq_ok_iff.2 ⟨named, resolved⟩
  have needed := Complexity.needsFullCompile_of_template template
  have complex : State.entryNeedsFullCompile selection = true := by
    rw [State.entryNeedsFullCompile, here, Option.any_some, vue, needed]
  have halves := run_eq_of_complex engine compiler chosen complex
  have once := consultsOnce_runToAnswer compiler chosen
  obtain ⟨heard, value, underway, answered⟩ := exists_value_runToAnswer compiler chosen complex
  rw [vue] at once answered
  obtain ⟨final, ends, document, built⟩ := exists_value_runFromAnswer engine
    underway.unbuilt (Assets.value_ofSelection_component vue here component)
  refine ⟨needed, ?_, once, halves, heard, final, value, ?_, answered, underway.unbuilt,
    underway.open_ended, document, ?_⟩
  · rw [halves]
    exact once.then_logs fun s _ => emits_runFromAnswer engine selection s
  · rw [halves, Build.value_bind, value]
    exact ends
  · intro none_found
    rw [built none_found]
    rfl

/-- A page and a component with a template and nothing else. -/
def templated : SourceSet := .ofContents [("index.html", ""), ("App.vue", "<template>a</template>")]

/-- The document of the compiler stands as it is, and a fault of it leaves the component to be
taken apart, in both cases after one consultation. -/
theorem consults_before_extraction_templated :
    let giving : Compiler := fun _ _ => pure (some (.outcome (.success "<p>b</p>")))
    let raising : Compiler := fun _ _ => throw (.other "OSError" "gone")
    ∃ selection entry, BuildsTemplate " Vue" templated selection entry ∧
      ConsultsOnce giving .vue templated (run .ok (some giving) " Vue" templated) ∧
      (∃ final, (run .ok (some giving) " Vue" templated).run.value = .ok final ∧
        final.outcome = some (.success "<p>b</p>") ∧ final.assets = none) ∧
      ∃ final, (run .ok (some raising) " Vue" templated).run.value = .ok final ∧
        final.assets.bind Assets.script = some (Component.ofSource entry.content).toScript := by
  intro giving raising
  have builds : BuildsTemplate " Vue" templated _ _ := ⟨rfl, rfl, rfl, rfl, by decide⟩
  obtain ⟨-, once, -, -, heard, final, -, ends, answered, -, -, document, -⟩ :=
    consults_before_extraction .ok giving builds
  obtain ⟨-, -, -, -, heard', final', -, ends', answered', -, -, -, built⟩ :=
    consults_before_extraction .ok raising builds
  refine ⟨_, _, builds, once, ⟨final, ends, document _ answered⟩, final', ends', built ?_⟩
  intro html document
  cases answered'.symm.trans document

end Pipeline

end WebPreview
