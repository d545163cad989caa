import WebPreview.Proofs.Page.Endings

/-! # The outcome that the page keeps

The preview comes below the editor, so that a build sees what was written in the same run. What
is kept of it is never for another framework: choosing one forgets it, and so does loading a
starter. After a run that completes, the outcome is therefore that of the project as it stands,
if the run was to build it, and if not it is that of an earlier run, for the same framework
(`WebPreview.Page.Sitting.outcome_after`).
-/

namespace WebPreview.Page

variable {v : Visit} {config : Config} {s s' : Session} {visits : List Visit} {st : State}
  {framework : String} {outcome : Outcome}

/-- The outcome is what one of the visits built, for this framework, from the files that it left
behind. -/
def BuiltFor (config : Config) (visits : List Visit) (framework : String)
    (outcome : Outcome) : Prop :=
  ∃ earlier w later st, visits = earlier ++ w :: later ∧ Sitting config earlier st ∧
    (after w st).session.framework = framework ∧ w.build config (after w st).session = .ok outcome

private theorem BuiltFor.append (built : BuiltFor config visits framework outcome) (v : Visit) :
    BuiltFor config (visits ++ [v]) framework outcome := by
  obtain ⟨earlier, w, later, st, rfl, rest⟩ := built
  exact ⟨earlier, w, later ++ [v], st, List.append_assoc _ _ _, rest⟩

/-- The framework and the files are all that a build looks at. -/
theorem build_congr (framework : s'.framework = s.framework) (files : s'.files = s.files) :
    v.build config s' = v.build config s := by
  rw [Visit.build, framework, files, Visit.build]

private theorem outcome_built (time : String) : (s.built time outcome).outcome = some outcome := by
  cases outcome <;> rfl

/-- With a click or the switch a run builds the project and keeps the outcome, and else it
leaves the session as it is. -/
theorem outcome_of_previewed (previewed : v.previewed config s = .ok s') :
    if v.clicked .compile || s.autoCompile then
      ∃ outcome, s'.outcome = some outcome ∧ v.build config s' = .ok outcome
    else s' = s := by
  obtain ⟨files, framework⟩ := previewed_keeps previewed
  rw [build_congr framework files]
  rcases previewed_cases previewed with ⟨builds, outcome, built, rfl⟩ | ⟨idle, rfl⟩
  · rw [if_pos builds]
    exact ⟨outcome, outcome_built v.clock, built⟩
  · rw [if_neg (Bool.eq_false_iff.1 idle)]

private theorem kept_of_settled {f : Framework} (there : (v.settled f s).outcome = some outcome) :
    s.outcome = some outcome ∧ s.framework = (v.settled f s).framework := by
  rw [outcome_settled] at there
  split at there
  · next same =>
      rw [framework_settled]
      exact ⟨there, same.symm⟩
  · cases there

private theorem kept_of_edited {f : Framework}
    (there : (v.edited (v.settled f s)).outcome = some outcome) :
    s.outcome = some outcome ∧ s.framework = (v.edited (v.settled f s)).framework := by
  rw [outcome_edited] at there
  rw [framework_edited]
  exact kept_of_settled there

private theorem kept_or_built {f : Framework}
    (previewed : v.previewed config (v.edited (v.settled f s)) = .ok s')
    (there : s'.outcome = some outcome) :
    (s.outcome = some outcome ∧ s.framework = s'.framework) ∨ v.build config s' = .ok outcome := by
  have left := outcome_of_previewed previewed
  split at left
  · obtain ⟨other, here, built⟩ := left
    rw [Option.some.inj (here.symm.trans there)] at built
    exact .inr built
  · rw [left] at there ⊢
    exact .inl (kept_of_edited there)

/-- An outcome that a run leaves behind is the one before, for the same framework, or the run
has built it. -/
theorem outcome_of_leads {ends : Except Stop Unit} (leads : Leads v config s ends s')
    (there : s'.outcome = some outcome) :
    (s.outcome = some outcome ∧ s.framework = s'.framework) ∨ v.build config s' = .ok outcome := by
  cases leads with
  | unchosen unknown => exact .inl ⟨there, rfl⟩
  | started chosen clicked => cases there
  | cleared chosen unstarted clicked =>
      have kept : (v.settled _ s).outcome = some outcome := there
      exact .inl (kept_of_settled kept)
  | lost settles missing =>
      rw [opened_eq] at there ⊢
      have kept : (v.settled _ s).outcome = some outcome := there
      exact .inl (kept_of_settled kept)
  | added settles found adds => exact .inl (kept_of_edited there)
  | removed settles found rejects opened clicked => exact .inl (kept_of_edited there)
  | stopped settles keeps failed => exact .inl (kept_of_edited there)
  | unstored settles keeps previewed refused => exact kept_or_built previewed there
  | done settles keeps previewed stored => exact kept_or_built previewed there

/-- Whatever the visits, the outcome is one that they built for the framework that is chosen
now. -/
theorem Sitting.builtFor (sitting : Sitting config visits st)
    (there : st.session.outcome = some outcome) :
    BuiltFor config visits st.session.framework outcome := by
  induction sitting with
  | fresh session valid =>
      rw [session] at there
      cases there
  | @visit visits st before v ih =>
      -- An outcome that was there before was built by then; a new one was built by the last visit.
      rcases outcome_of_leads (before.leads v) there with ⟨earlier, same⟩ | built
      · rw [← same]
        exact (ih earlier).append v
      · exact ⟨visits, v, [], st, rfl, before, rfl, built⟩

/-- After a run that completes: the files have what was written in it, and the framework is the
one chosen in it. If Compile was clicked or every run is to compile, the outcome is what these
files come to under this framework; and else there is none, or an earlier visit has built it for
this framework. -/
theorem Sitting.outcome_after (sitting : Sitting config visits st)
    (completed : ending v st = .ok ()) :
    (after v st).session.files.entries = v.written st.session ∧
    (after v st).session.framework = v.framework.getD st.session.framework ∧
    if v.clicked .compile || v.autoCompile.getD st.session.autoCompile then
      ∃ outcome, (after v st).session.outcome = some outcome ∧
        (Pipeline.compile v.engine (v.compiler config) (after v st).session.framework
          (after v st).session.files).run.value = .ok outcome
    else ∀ outcome, (after v st).session.outcome = some outcome →
      BuiltFor config visits (after v st).session.framework outcome := by
  have leads := sitting.leads v
  rw [completed] at leads
  generalize (after v st).session = s' at leads ⊢
  cases leads with
  | @done f s' entries settles keeps previewed stored =>
      obtain ⟨files, framework⟩ := previewed_keeps previewed
      have left := outcome_of_previewed previewed
      rw [autoCompile_edited, autoCompile_settled] at left
      refine ⟨?_, ?_, ?_⟩
      · rw [files, entries_edited keeps.found, written_settled]
      · rw [framework, framework_edited, framework_settled, settles.chosen.named]
      · split at left
        · next builds =>
            rw [if_pos builds]
            exact left
        · next idle =>
            rw [if_neg idle, left]
            intro outcome there
            obtain ⟨earlier, same⟩ := kept_of_edited there
            rw [← same]
            exact sitting.builtFor earlier

/-- The page of a fresh project is written anew, and every run compiles. -/
theorem outcome_after_written :
    let visit : Visit := {
      content := some "<p>new</p>"
      clock := "12:00:00"
      engine := .ok
      transport := fun _ _ => throw (.transport .connectError "refused") }
    let st : State := { settings := { env := .empty } }
    Sitting .usual [] st ∧ ending visit st = .ok () ∧
      ∃ outcome, (after visit st).session.outcome = some outcome ∧
        (Pipeline.compile visit.engine (visit.compiler .usual)
          (after visit st).session.framework (after visit st).session.files).run.value =
            .ok outcome := by
  intro visit st
  have sitting : Sitting .usual [] st := .fresh_usual
  have offered : visit.Offered st.session := ⟨nofun, nofun⟩
  have refuses : visit.engine.OnlyRefuses := nofun
  have completed : ending visit st = .ok () := Sitting.ending_of_unclicked offered refuses rfl
  have left := (sitting.outcome_after completed).2.2
  have builds : (visit.clicked .compile || visit.autoCompile.getD st.session.autoCompile) = true :=
    rfl
  rw [if_pos builds] at left
  exact ⟨sitting, completed, left⟩

end WebPreview.Page
