import WebPreview.Proofs.Assets.Made
import WebPreview.Proofs.Bytes.Utf8
import WebPreview.Proofs.Pipeline.Consult
import WebPreview.Proofs.Toolchain.Completion
import WebPreview.Proofs.Toolchain.Printed

/-! # The same page in containers and in this process

A build in containers and a build in this process put a script and a style into the same page,
each in a way of its own: they join the styles by different rules, and only one of them may give
the script a type. The two ways agree. Whenever the second container's output is read as the
script that this process makes and the component's own style, the documents are the same
(`WebPreview.Toolchain.compile_eq_inProcess`). An output that ends with that result as the build
script prints it is read as such if no character of the two texts parts its line. Otherwise the
build fails, though this process builds the document
(`WebPreview.Toolchain.compile_fails_of_separator`).
-/

namespace WebPreview

/-- A component framework does not go without an entry. -/
theorem Selection.exists_entry {framework : Framework} {files : SourceSet} {s : Selection}
    (component : framework ≠ .vanilla) (resolved : resolve framework files = .ok s) :
    ∃ entry, s.entry = some entry := by
  cases resolves_of_eq resolved with
  | plain vanilla here => exact absurd vanilla component
  | entered _ here found => exact ⟨_, rfl⟩

/-- Without a compiler a build comes to the page with what this process makes. -/
theorem Pipeline.value_compile_none {scripts : ScriptEngine} {framework : Framework}
    {files : SourceSet} {s : Selection} {assets : Assets}
    (resolved : Selection.resolve framework files = .ok s)
    (built : (Assets.ofSelection scripts s).run.value = .ok assets) :
    (compile scripts none framework.id files).run.value =
      .ok (.success (State.document s assets)) := by
  have chosen : (State.start framework.id files).choose = .ok (framework, s) :=
    choose_eq_ok_iff.2 ⟨Framework.parse_id _, resolved⟩
  have alone : outcomeAfter scripts s none = localOutcome scripts s :=
    outcomeAfter_of_no_success scripts s (by simp)
  rw [value_compile_of_ok chosen, answer?_none, alone, localOutcome, built]

namespace BuildResult

/-- An empty line in front is not read. -/
theorem ofOutput_newline (output : String) : ofOutput ("\n" ++ output) = ofOutput output := by
  have lines : Text.lines ("\n" ++ output) = "" :: Text.lines output := by
    have spelled : ("\n" ++ output).toList = '\n' :: output.toList := by simp
    have single : '\n' = '\r' → ∀ cs, output.toList ≠ '\n' :: cs :=
      fun same => absurd same (by decide)
    rw [Text.lines, spelled, Text.linesFrom_cons_of_end rfl single]
    rfl
  rw [ofOutput, ofOutput, lines]
  rfl

end BuildResult

namespace Printed

open BuildResult (ofOutput ofOutput_newline)

variable {p : Printed} {output : String}

/-- The result is printed at the end of the output, on a line that nothing else stands on. -/
inductive Ends (p : Printed) : String → Prop where
  | alone : Ends p (p.line ++ "\n")
  | behind (noise : String) : Ends p (noise ++ "\n" ++ p.line ++ "\n")

/-- Alone it is read as behind an empty line. -/
theorem Ends.exists_behind (ends : p.Ends output) :
    ∃ noise, ofOutput output = ofOutput (noise ++ "\n" ++ p.line ++ "\n") := by
  cases ends with
  | alone => exact ⟨"", by rw [String.empty_append, String.append_assoc, ofOutput_newline]⟩
  | behind noise => exact ⟨noise, rfl⟩

private theorem Ends.ofOutput_joined (ends : p.Ends output) (joined : p.Joined) :
    ofOutput output = .ok p.result := by
  obtain ⟨noise, same⟩ := ends.exists_behind
  rw [same, BuildResult.ofOutput_joined joined]

private theorem Ends.ofOutput_parted (ends : p.Ends output) (parted : ¬p.Joined) :
    ∃ line, (Text.lines p.line).getLast? = some line ∧
      ofOutput output = .error (.noResult line) := by
  obtain ⟨noise, same⟩ := ends.exists_behind
  obtain ⟨line, last, refused⟩ := BuildResult.ofOutput_parted parted noise
  exact ⟨line, last, same.trans refused⟩

end Printed

namespace Toolchain

variable {framework : Framework} {files : SourceSet} {s : Selection}

/-- Joining the styles piece by piece comes to the same as joining the ones that count. -/
theorem mergeStyles_eq (file : Option String) (built : String) :
    mergeStyles file built = Assets.mergeStyles file built := by
  by_cases plain : built = ""
  · rw [plain, Assets.mergeStyles_empty]
    rfl
  · unfold mergeStyles Assets.mergeStyles
    rw [if_neg plain, if_neg plain]
    cases file.filter (· != "") <;> rfl

/-- A script without a type and the entry's own style go into the page as what this process
makes does. -/
theorem document_ownStyle {assets : Assets} {script : String} (made : Assets.Made s assets)
    (scripted : assets.script = some script) (whole : assets.degraded = false) :
    document s ⟨script, s.ownStyle, none⟩ = Pipeline.State.document s assets := by
  rw [document, Pipeline.State.document, mergeStyles_eq, scripted, made.style,
    made.scriptType whole]

/-- **The same page, spliced the same way.** Where this process makes a script that is not left
to a runtime in the browser, it comes to a document. A build whose containers end well comes to
the same document if its output is read as that script with the style that the entry brings
along. If the output ends with them as the build script prints them, it does so exactly if
neither of the two has a character that parts the line. Otherwise it fails with what is left of
the line. All this takes a project that can be removed afterwards. -/
theorem compile_eq_inProcess {scripts : ScriptEngine} {assets : Assets}
    (component : framework ≠ .vanilla) (resolved : Selection.resolve framework files = .ok s)
    (built : (Assets.ofSelection scripts s).run.value = .ok assets)
    (whole : assets.degraded = false) :
    ∃ script html, assets.script = some script ∧
      (Pipeline.compile scripts none framework.id files).run.value = .ok (.success html) ∧
      ∀ t engine output, Completes t engine files output →
        (t.Clears files →
          (BuildResult.ofOutput output = .ok ⟨script, s.ownStyle, none⟩ →
            (t.compile engine framework files).run.value = .ok (.success html)) ∧
          ((Printed.made script s.ownStyle).Ends output →
            ((t.compile engine framework files).run.value = .ok (.success html) ↔
              (Printed.made script s.ownStyle).Joined) ∧
            (¬(Printed.made script s.ownStyle).Joined →
              ∃ line, (Text.lines (Printed.made script s.ownStyle).line).getLast? = some line ∧
                (t.compile engine framework files).run.value =
                  .ok (.failure ⟨(BuildResult.Fault.noResult line).message, unknownFile⟩)))) ∧
        (¬t.Clears files →
          (t.compile engine framework files).run.value = .error stranded) := by
  have made := Assets.made_of_value built
  obtain ⟨entry, here⟩ := Selection.exists_entry component resolved
  obtain ⟨script, scripted⟩ := Option.ne_none_iff_exists'.1 (mt made.script.1 (by simp [here]))
  refine ⟨script, _, scripted, Pipeline.value_compile_none resolved built, ?_⟩
  rw [← document_ownStyle made scripted whole]
  intro t engine output completes
  rw [completes.value_compile component resolved]
  refine ⟨fun clears => ?_, fun deep => if_neg deep⟩
  rw [if_pos clears]
  have joins (read : BuildResult.ofOutput output = .ok ⟨script, s.ownStyle, none⟩) :
      outcomeOfOutput s output = .success (document s ⟨script, s.ownStyle, none⟩) := by
    rw [outcomeOfOutput, read]
    rfl
  refine ⟨fun read => congrArg Except.ok (joins read), fun ends => ?_⟩
  have fails (parted : ¬(Printed.made script s.ownStyle).Joined) :
      ∃ line, (Text.lines (Printed.made script s.ownStyle).line).getLast? = some line ∧
        outcomeOfOutput s output =
          .failure ⟨(BuildResult.Fault.noResult line).message, unknownFile⟩ := by
    obtain ⟨line, last, refused⟩ := ends.ofOutput_parted parted
    exact ⟨line, last, by rw [outcomeOfOutput, refused]⟩
  refine ⟨⟨fun value => ?_, fun joined => congrArg Except.ok (joins (ends.ofOutput_joined joined))⟩,
    fun parted => ?_⟩
  · by_contra parted
    obtain ⟨line, -, failed⟩ := fails parted
    cases failed.symm.trans (Except.ok.inj value)
  · obtain ⟨line, last, failed⟩ := fails parted
    exact ⟨line, last, congrArg Except.ok failed⟩

/-- An engine whose containers report the status zero, the second one after printing. -/
def echoing (output : String) : ContainerEngine where
  container
    | .install => {}
    | .build => { logs := fun _ => .ok (Utf8.encode output.toList) }

private theorem completes_echoing
    (written : (Project.writeFresh usualRoom standard.directory standard.script files).1 = .ok ())
    (output : String) : standard.Completes (echoing output) files output where
  reached := ⟨rfl, rfl⟩
  written := written
  fetched := .inl rfl
  installed := ⟨rfl, _, _, rfl, rfl, rfl⟩
  bundled := ⟨rfl, _, _, rfl, rfl, rfl⟩
  printed := ⟨_, rfl, Utf8.decodeLossy_encode output⟩

/-- A page with a place for a style and a tag for a component. -/
def styledPage : String := Markers.stylePlaceholder ++ "<script src=\"App.vue\"></script>"

/-- A component with a style of its own. -/
def styledApp : String := "<template></template><style>h1{}</style>"

/-- A Vue project of the two, with a style sheet. -/
def styledVue : SourceSet :=
  .ofContents [("index.html", styledPage), ("style.css", "p{}"), ("App.vue", styledApp)]

/-- What the Vue project resolves to. -/
def styledVueSelection : Selection :=
  ⟨.vue, ⟨"index.html", .markup, styledPage⟩, some ⟨"style.css", .style, "p{}"⟩,
    some ⟨"App.vue", .vue, styledApp⟩, none, .ofNames (some "style.css") ["App.vue"]⟩

/-- Behind a line of its own, the component's script and style are spliced into the same
document as in this process. -/
theorem compile_eq_inProcess_styledVue :
    let s := styledVueSelection
    let script := (Component.ofSource styledApp).toScript
    let output := "done" ++ "\n" ++ (Printed.made script s.ownStyle).line ++ "\n"
    Selection.resolve .vue styledVue = .ok s ∧ s.ownStyle = "h1{}" ∧
      standard.Completes (echoing output) styledVue output ∧
      ∃ html, (Pipeline.compile .ok none "vue" styledVue).run.value = .ok (.success html) ∧
        (standard.compile (echoing output) .vue styledVue).run.value = .ok (.success html) := by
  intro s script output
  have resolved : Selection.resolve .vue styledVue = .ok s := by rfl
  have own : s.ownStyle = "h1{}" := by decide
  have completes : standard.Completes (echoing output) styledVue output :=
    completes_echoing (Project.writeFresh_of_flat (by decide) _ _ (by decide +kernel)) output
  have clears : standard.Clears styledVue := by decide +kernel
  have component : s.entryIsComponent = true := by decide
  have built : (Assets.ofSelection .ok s).run.value = .ok _ :=
    Assets.value_ofSelection_component rfl rfl component
  obtain ⟨_, html, made, here, splices⟩ := compile_eq_inProcess (by decide) resolved built rfl
  obtain rfl : script = _ := Option.some.inj made
  have joined : (Printed.made script s.ownStyle).Joined := by decide +kernel
  exact ⟨resolved, own, completes, html, here,
    (((splices _ _ _ completes).1 clears).2 (.behind "done")).1.2 joined⟩

/-- A Svelte project whose script is a line separator. -/
def separated : SourceSet :=
  .ofContents [("index.html", "<script src=\"a.js\"></script>"), ("a.js", "\u2028")]

/-- What the Svelte project resolves to. -/
def separatedSelection : Selection :=
  ⟨.svelte, ⟨"index.html", .markup, "<script src=\"a.js\"></script>"⟩, none,
    some ⟨"a.js", .script, "\u2028"⟩, none, .ofNames none ["a.js"]⟩

/-- In this process the script is spliced as it is. Containers that run to their ends and print
it as the build script does come to a failure. -/
theorem compile_fails_of_separator :
    let s := separatedSelection
    let output := (Printed.made "\u2028" s.ownStyle).line ++ "\n"
    Selection.resolve .svelte separated = .ok s ∧
      (Assets.ofSelection .ok s).run.value = .ok ⟨some "\u2028", none, none, false⟩ ∧
      standard.Completes (echoing output) separated output ∧
      (Pipeline.compile .ok none "svelte" separated).run.value =
        .ok (.success "<script>\u2028</script>") ∧
      (standard.compile (echoing output) .svelte separated).run.value = .ok (.failure
        ⟨"Toolchain output is not a build result: \",\"style\":\"\"\x7d", "unknown"⟩) := by
  intro s output
  have completes : standard.Completes (echoing output) separated output :=
    completes_echoing (Project.writeFresh_of_flat (by decide) _ _ (by decide +kernel)) output
  have clears : standard.Clears separated := by decide +kernel
  have unread : BuildResult.ofOutput output = .error (.noResult "\",\"style\":\"\"\x7d") := by
    decide +kernel
  refine ⟨rfl, rfl, completes, by rfl, ?_⟩
  rw [completes.value_compile (by decide) rfl, if_pos clears, outcomeOfOutput, unread]
  decide +kernel

end Toolchain

end WebPreview
