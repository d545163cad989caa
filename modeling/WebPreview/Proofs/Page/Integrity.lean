import WebPreview.Proofs.Page.Endings

/-! # What holds of the session after every run

The fields of the session belong together: the framework is one that is offered, every file
stands under its own name and has the kind that the name tells, the console holds the latest of
the lines that were logged since it was cleared, and once a run completes the chosen file is one
of the files. Whatever is clicked, and however a run ends, this holds after it
(`WebPreview.Page.Sitting.session_after`).

Which lines these are is told by what the visits gave and clicked
(`WebPreview.Page.Visit.transcript`), without a bound on their number.
-/

namespace WebPreview

/-- The entry is a file under its own name, with the kind that the name tells. -/
structure SourceSet.Filed (entry : String × SourceFile) : Prop where
  name : entry.2.name = entry.1
  kind : entry.2.kind = FileKind.ofName entry.1

private theorem SourceSet.filed_ofName (name content : String) :
    Filed (name, .ofName name content) := by
  constructor <;> simp only [SourceFile.ofName]

private theorem SourceSet.filed_ofContents (contents : List (String × String)) :
    ∀ p ∈ (ofContents contents).entries, Filed p := by
  apply Keyed.forall_mem_ofList
  intro p inside
  obtain ⟨⟨name, content⟩, -, rfl⟩ := List.mem_map.1 inside
  exact filed_ofName name content

namespace Page

variable {v : Visit} {config : Config} {s s' : Session} {f : Framework} {visits : List Visit}
  {st : State} {lines : List ConsoleLine}

/-- Every file of the session stands under its own name. -/
def Session.Filed (s : Session) : Prop := ∀ p ∈ s.files.entries, SourceSet.Filed p

private theorem filed_written (before : s.Filed) : ∀ p ∈ v.written s, SourceSet.Filed p := by
  intro p inside
  obtain ⟨old, member, rfl⟩ := List.mem_map.1 inside
  have kept := before old member
  split
  · exact ⟨kept.name, kept.kind⟩
  · exact kept

private theorem filed_of_leads {ends : Except Stop Unit} (leads : Leads v config s ends s')
    (before : s.Filed) : s'.Filed := by
  have settled (f : Framework) : (v.settled f s).Filed := by
    rw [Session.Filed, files_settled]
    exact before
  have edited {f : Framework} (found : v.Finds (v.settled f s)) :
      (v.edited (v.settled f s)).Filed := by
    rw [Session.Filed, entries_edited found]
    exact filed_written (settled f)
  cases leads with
  | unchosen unknown => exact before
  | started chosen clicked => exact SourceSet.filed_ofContents _
  | cleared chosen unstarted clicked => exact settled _
  | lost settles missing =>
      rw [opened_eq]
      exact settled _
  | added settles found adds =>
      intro p inside
      rcases Named.mem_put inside with rfl | kept
      · exact SourceSet.filed_ofName _ _
      · exact edited found p kept
  | removed settles found rejects opened clicked =>
      intro p inside
      exact edited found p (List.mem_of_mem_filter inside)
  | stopped settles keeps failed => exact edited keeps.found
  | unstored settles keeps previewed refused =>
      rw [Session.Filed, (previewed_keeps previewed).1]
      exact edited keeps.found
  | done settles keeps previewed stored =>
      rw [Session.Filed, (previewed_keeps previewed).1]
      exact edited keeps.found

private theorem Sitting.filed (sitting : Sitting config visits st) : st.session.Filed := by
  have initial : Session.Filed {} := SourceSet.filed_ofContents _
  apply sitting.invariant initial
  intro v s ends s' before leads
  exact filed_of_leads leads before

/-- A line that is logged during the visit. -/
def Visit.line (v : Visit) (level message : String) : ConsoleLine := ⟨v.clock, level, message⟩

/-- What is logged of a build. -/
def Visit.buildLine (v : Visit) (framework : String) : Outcome → ConsoleLine
  | .success html =>
    v.line "info" ("Compiled " ++ framework ++ " project (" ++ toString html.length ++ " bytes)")
  | .failure reason => v.line "error" reason.line

/-- The framework that a run has chosen, if it is one that there is. -/
def Visit.choice? (v : Visit) (s : Session) : Option Framework :=
  Framework.ofId? (v.framework.getD s.framework)

/-- The file that a run is to take away, if the button for it was clicked. -/
def Visit.removal? (v : Visit) (s : Session) : Option String :=
  (v.key? s).filter fun key => v.clicked (.remove key)

/-- The lines that a build logs: one, if the run is to build and the build ends. -/
def Visit.buildLines (v : Visit) (config : Config) (s : Session) : List ConsoleLine :=
  if v.clicked .compile || s.autoCompile then
    match v.build config s with
    | .ok outcome => [v.buildLine s.framework outcome]
    | .error _ => []
  else []

instance (v : Visit) (s : Session) : Decidable (v.Finds s) :=
  decidable_of_iff ((v.key? s).all (· ∈ s.files.names) = true) (by
    unfold Visit.Finds
    cases v.key? s <;> simp)

/-- The lines that a run logs with this framework. A run that loads a starter, or adds or removes
a file, says so and is broken off; any other one that gets past the editor may build. -/
def Visit.logged (v : Visit) (config : Config) (f : Framework) (s : Session) :
    List ConsoleLine :=
  if v.clicked .loadStarter then [v.line "info" ("Loaded " ++ f.id ++ " starter")]
  else if ¬v.Finds s then []
  else if v.Adds s then [v.line "info" ("Added " ++ v.typed)]
  else match v.removal? s with
    | some key => [v.line "info" ("Removed " ++ key)]
    | none => v.buildLines config (v.edited (v.settled f s))

/-- The lines that have been logged since the console was last cleared, after a run, given those
before it. -/
def Visit.transcript (v : Visit) (config : Config) (s : Session) (lines : List ConsoleLine) :
    List ConsoleLine :=
  match v.choice? s with
  | none => lines
  | some f =>
    if v.clicked .clearConsole && !v.clicked .loadStarter then []
    else lines ++ v.logged config f s

/-- These are the lines that the visits have logged since one of them last cleared the
console. -/
inductive Transcript (config : Config) : List Visit → State → List ConsoleLine → Prop
  | fresh {st : State} (session : st.session = {}) : Transcript config [] st []
  | visit {visits : List Visit} {st : State} {lines : List ConsoleLine}
    (before : Transcript config visits st lines) (v : Visit) :
    Transcript config (visits ++ [v]) (after v st) (v.transcript config st.session lines)

/-- Whether older lines are left out at once or later comes to the same. -/
theorem lastItems_append_singleton {α : Type} (n : Nat) (xs : List α) (x : α) :
    lastItems (n + 1) (lastItems (n + 1) xs ++ [x]) = lastItems (n + 1) (xs ++ [x]) := by
  have short : xs.length - (n + 1) ≤ xs.length := Nat.sub_le _ _
  simp only [lastItems, List.length_append, List.length_drop, List.length_singleton]
  rw [← List.drop_append_of_le_length short, List.drop_drop]
  congr 1
  omega

private theorem console_note (kept : s.console = lastItems maxConsoleLines lines)
    (time level message : String) :
    (s.note time level message).console =
      lastItems maxConsoleLines (lines ++ [⟨time, level, message⟩]) := by
  have more := lastItems_append_singleton 199 lines ⟨time, level, message⟩
  simp only [Session.note, kept]
  exact more

private theorem console_settled (f : Framework) (s : Session) :
    (v.settled f s).console = s.console := by
  simp only [Visit.settled, Session.choose]
  split <;> rfl

private theorem console_edited (f : Framework) (s : Session) :
    (v.edited (v.settled f s)).console = s.console := by
  obtain ⟨_, _, edited⟩ := exists_edited v (v.settled f s)
  have kept : (v.settled f s).console = s.console := console_settled f s
  rw [edited, ← kept]

private theorem console_previewed (previewed : v.previewed config s = .ok s')
    (kept : s.console = lastItems maxConsoleLines lines) :
    s'.console = lastItems maxConsoleLines (lines ++ v.buildLines config s) := by
  rcases previewed_cases previewed with ⟨builds, outcome, built, rfl⟩ | ⟨idle, rfl⟩
  · have line : v.buildLines config s = [v.buildLine s.framework outcome] := by
      rw [Visit.buildLines, if_pos builds, built]
    rw [line]
    cases outcome <;> exact console_note kept _ _ _
  · have silent : v.buildLines config s' = [] := if_neg (Bool.eq_false_iff.1 idle)
    rwa [silent, List.append_nil]

/-- A build that stops the run has logged nothing. -/
theorem buildLines_of_error {fault : Raised} (failed : v.previewed config s = .error fault) :
    v.buildLines config s = [] := by
  unfold Visit.previewed at failed
  unfold Visit.buildLines
  split
  · next builds =>
      rw [if_pos builds] at failed
      cases built : v.build config s with
      | error fault => rfl
      | ok outcome =>
          rw [built] at failed
          cases failed
  · rfl

private theorem choice?_of_chooses (chosen : v.Chooses s f) : v.choice? s = some f := by
  rw [Visit.choice?, ← chosen.named, Framework.ofId?_id]

private theorem choice?_of_not_chooses (listed : s.Listed) (unknown : ∀ f, ¬v.Chooses s f) :
    v.choice? s = none := by
  cases chosen : v.choice? s with
  | none => rfl
  | some f =>
      have named := (find?_id_eq_some_iff Framework.ofId?_id).1 chosen
      exact absurd ⟨listed, named.symm⟩ (unknown f)

private theorem transcript_of_chooses (chosen : v.Chooses s f)
    (uncleared : v.clicked .clearConsole = false ∨ v.clicked .loadStarter = true) :
    v.transcript config s lines = lines ++ v.logged config f s := by
  have goes_on : (v.clicked .clearConsole && !v.clicked .loadStarter) = false := by
    rcases uncleared with same | same <;> simp [same]
  simp only [Visit.transcript, choice?_of_chooses chosen, goes_on, Bool.false_eq_true, ↓reduceIte]

private theorem transcript_of_settles (settles : v.Settles s f) :
    v.transcript config s lines = lines ++ v.logged config f s :=
  transcript_of_chooses settles.chosen (.inl settles.uncleared)

private theorem finds_settled_iff : v.Finds (v.settled f s) ↔ v.Finds s := by
  simp only [Visit.Finds, key?_settled, files_settled]

private theorem removal?_of_keeps (keeps : v.Keeps (v.settled f s)) : v.removal? s = none := by
  refine Option.filter_eq_none_iff.2 fun key opened => ?_
  exact Bool.eq_false_iff.1 (keeps.unremoved key (key?_settled.trans opened))

private theorem logged_of_keeps (settles : v.Settles s f) (keeps : v.Keeps (v.settled f s)) :
    v.logged config f s = v.buildLines config (v.edited (v.settled f s)) := by
  have rejects : ¬v.Adds s := mt (adds_iff_of_finds keeps.found).2 keeps.rejects
  simp only [Visit.logged, settles.unstarted, finds_settled_iff.1 keeps.found, rejects,
    removal?_of_keeps keeps, Bool.false_eq_true, not_true_eq_false, ↓reduceIte]

/-- Wherever a visit leads, the console holds the latest lines of the transcript. -/
theorem console_of_leads {ends : Except Stop Unit} (leads : Leads v config s ends s')
    (listed : s.Listed) (kept : s.console = lastItems maxConsoleLines lines) :
    s'.console = lastItems maxConsoleLines (v.transcript config s lines) := by
  have edited (f : Framework) :
      (v.edited (v.settled f s)).console = lastItems maxConsoleLines lines :=
    (console_edited f s).trans kept
  cases leads with
  | unchosen unknown =>
      rw [Visit.transcript, choice?_of_not_chooses listed unknown]
      exact kept
  | @started f chosen clicked =>
      have chosen_kept :
          ((s.choose f).loadStarter f).console = lastItems maxConsoleLines lines := by
        simp only [Session.loadStarter, Session.choose]
        split <;> exact kept
      rw [transcript_of_chooses chosen (.inr clicked), Visit.logged, if_pos clicked]
      exact console_note chosen_kept _ _ _
  | cleared chosen unstarted clicked =>
      simp only [Visit.transcript, choice?_of_chooses chosen, clicked, unstarted, Bool.not_false,
        Bool.and_self, ↓reduceIte]
      rfl
  | lost settles missing =>
      rw [transcript_of_settles settles, opened_eq]
      simp only [Visit.logged, settles.unstarted, mt finds_settled_iff.2 missing,
        Bool.false_eq_true, not_false_eq_true, ↓reduceIte, List.append_nil]
      exact (console_settled _ s).trans kept
  | @added f settles found adds =>
      have asked : v.Adds s := (adds_iff_of_finds found).1 adds
      have line : v.logged config f s = [v.line "info" ("Added " ++ v.typed)] := by
        simp only [Visit.logged, settles.unstarted, finds_settled_iff.1 found, asked,
          Bool.false_eq_true, not_true_eq_false, ↓reduceIte]
      rw [transcript_of_settles settles, line]
      exact console_note (edited f) _ _ _
  | @removed f key settles found rejects opened clicked =>
      have unasked : ¬v.Adds s := mt (adds_iff_of_finds found).2 rejects
      have asked : v.removal? s = some key :=
        Option.filter_eq_some_iff.2 ⟨key?_settled.symm.trans opened, clicked⟩
      have line : v.logged config f s = [v.line "info" ("Removed " ++ key)] := by
        simp only [Visit.logged, settles.unstarted, finds_settled_iff.1 found, unasked, asked,
          Bool.false_eq_true, not_true_eq_false, ↓reduceIte]
      rw [transcript_of_settles settles, line]
      exact console_note (edited f) _ _ _
  | @stopped f fault settles keeps failed =>
      rw [transcript_of_settles settles, logged_of_keeps settles keeps, buildLines_of_error failed,
        List.append_nil]
      exact edited f
  | unstored settles keeps previewed refused =>
      rw [transcript_of_settles settles, logged_of_keeps settles keeps]
      exact console_previewed previewed (edited _)
  | done settles keeps previewed stored =>
      rw [transcript_of_settles settles, logged_of_keeps settles keeps]
      exact console_previewed previewed (edited _)

private theorem Sitting.exists_transcript (sitting : Sitting config visits st) :
    ∃ lines, Transcript config visits st lines ∧
      st.session.console = lastItems maxConsoleLines lines := by
  induction sitting with
  | fresh session valid => exact ⟨[], .fresh session, by rw [session]; rfl⟩
  | visit before v ih =>
      obtain ⟨lines, told, kept⟩ := ih
      exact ⟨_, told.visit v, console_of_leads (before.leads v) before.listed kept⟩

private theorem selected_previewed (previewed : v.previewed config s = .ok s') :
    s'.selected = s.selected := by
  rcases previewed_cases previewed with ⟨-, outcome, -, rfl⟩ | ⟨-, rfl⟩
  · cases outcome <;> rfl
  · rfl

/-- There is a file in the editor unless there are no files. -/
theorem key?_eq_none_iff : v.key? s = none ↔ s.files.names = [] := by
  rw [Visit.key?, Option.map_eq_none_iff, Session.reselect]
  split
  · next there =>
      cases selected : s.selected with
      | none =>
          rw [selected] at there
          cases there
      | some key =>
          rw [selected] at there
          have member : key ∈ s.files.names := Keyed.contains_iff.1 there
          exact iff_of_false (Option.some_ne_none key) (List.ne_nil_of_mem member)
  · exact List.head?_eq_none_iff

/-- After a run that completes, the chosen file is one of the files, and none is chosen only if
there are none. -/
theorem selected_of_done (leads : Leads v config s (.ok ()) s') :
    (∀ key, s'.selected = some key → key ∈ s'.files.names) ∧
      (s'.selected = none ↔ s'.files.names = []) := by
  cases leads with
  | @done f s' entries settles keeps previewed stored =>
      have selected : s'.selected = v.key? (v.settled f s) := by
        rw [selected_previewed previewed, selected_edited]
      have names : s'.files.names = (v.settled f s).files.names := by
        rw [(previewed_keeps previewed).1, names_edited keeps.found]
      rw [selected, names]
      exact ⟨keeps.found, key?_eq_none_iff⟩

private theorem suffix_lastItems {α : Type} (n : Nat) (xs : List α) :
    lastItems n xs <:+ xs ∧ (lastItems n xs).length = min n xs.length := by
  refine ⟨List.drop_suffix _ _, ?_⟩
  rw [lastItems, List.length_drop]
  omega

/-- After any visits and one more, however its run ends: the framework is one that is offered,
every file has the name and the kind that its key tells, and the console holds the latest lines
that were logged since it was cleared, all of them up to 200. If the run has completed, the chosen
file is one of the files, and there is none exactly if there are no files. -/
theorem Sitting.session_after (sitting : Sitting config visits st) (v : Visit) :
    (after v st).session.framework ∈ Framework.all.map Framework.id ∧
    (∀ key file, (key, file) ∈ (after v st).session.files.entries →
      file.name = key ∧ file.kind = FileKind.ofName key) ∧
    (∃ lines, Transcript config (visits ++ [v]) (after v st) lines ∧
      (after v st).session.console <:+ lines ∧
      (after v st).session.console.length = min 200 lines.length) ∧
    (ending v st = .ok () →
      (∀ key, (after v st).session.selected = some key →
        key ∈ (after v st).session.files.names) ∧
      ((after v st).session.selected = none ↔ (after v st).session.files.names = [])) := by
  have next : Sitting config (visits ++ [v]) (after v st) := .visit sitting v
  refine ⟨next.listed, ?_, ?_, ?_⟩
  · intro key file inside
    have filed := next.filed (key, file) inside
    exact ⟨filed.name, filed.kind⟩
  · obtain ⟨lines, told, kept⟩ := next.exists_transcript
    rw [kept]
    exact ⟨lines, told, suffix_lastItems 200 lines⟩
  · intro completed
    have leads := sitting.leads v
    rw [completed] at leads
    exact selected_of_done leads

/-- A fresh project is built, which is all that the console tells, and the page is still the
chosen file. -/
theorem session_after_built :
    let idle : Visit := {
      clock := "12:00:00"
      engine := .ok
      transport := fun _ _ => throw (.transport .connectError "refused") }
    let st : State := { settings := { env := .empty } }
    Sitting .usual [] st ∧ ending idle st = .ok () ∧
      (∃ lines, Transcript .usual [idle] (after idle st) lines ∧
        (after idle st).session.console <:+ lines ∧
        (after idle st).session.console.length = min 200 lines.length) ∧
      ∀ key, (after idle st).session.selected = some key →
        key ∈ (after idle st).session.files.names := by
  intro idle st
  have sitting : Sitting .usual [] st := .fresh_usual
  have completed : ending idle st = .ok () :=
    Sitting.ending_of_unclicked ⟨nofun, nofun⟩ nofun rfl
  obtain ⟨-, -, console, chosen⟩ := sitting.session_after idle
  exact ⟨sitting, completed, console, (chosen completed).1⟩

end Page

end WebPreview
