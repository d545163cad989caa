import WebPreview.Proofs.Page.Steps

/-! # Where a visit leads

A run of the page ends in one of nine ways, and each of them says which session is left
behind (`WebPreview.Page.Leads`). Every run under a configuration is one of them
(`WebPreview.Page.leads_run`), so what holds of a fresh session and is kept by each way
holds after any visits (`WebPreview.Page.Sitting.invariant`).
-/

namespace WebPreview

/-- The configuration that an empty environment gives. -/
def Config.usual : Config where
  compilerUrl := none
  compilerTimeout := defaultCompilerTimeout
  toolchainImage := defaultImage
  toolchainTimeout := defaultToolchainTimeout
  installTimeout := defaultInstallTimeout
  logLevel := "INFO"

private theorem Settings.config_usual :
    ({ env := .empty : Settings }).config.2 = .ok (0, .usual) := rfl

/-- A configuration that could be used is kept. -/
theorem Settings.config_of_config {s : Settings} {number : Nat} {config : Config}
    (valid : s.config.2 = .ok (number, config)) : s.config.1.config.2 = .ok (number, config) := by
  unfold Settings.config at valid ⊢
  cases kept : s.kept with
  | some found =>
      rw [kept] at valid
      simp only [kept, valid]
  | none =>
      simp only [kept] at valid ⊢
      cases read : s.fresh.2 with
      | error e =>
          rw [read] at valid
          cases valid
      | ok config' =>
          rw [read] at valid
          exact valid

namespace Page

open Run

variable {v : Visit} {config : Config} {s : Session} {f : Framework}

/-- A run gets past the sidebar, with this framework. -/
structure Visit.Settles (v : Visit) (s : Session) (f : Framework) : Prop where
  chosen : v.Chooses s f
  unstarted : v.clicked .loadStarter = false
  uncleared : v.clicked .clearConsole = false

/-- A run gets past the editor. -/
structure Visit.Keeps (v : Visit) (s : Session) : Prop where
  found : v.Finds s
  rejects : ¬v.Adds (v.edited s)
  unremoved : ∀ key, v.key? s = some key → v.clicked (.remove key) = false

/-- A run with the visit under the configuration leads from the session to this end, and
to the session that is left behind. -/
inductive Leads (v : Visit) (config : Config) (s : Session) : Except Stop Unit → Session → Prop
  | unchosen {fault : Raised} (unknown : ∀ f, ¬v.Chooses s f) :
    Leads v config s (.error (.fault fault)) s
  | started {f : Framework} (chosen : v.Chooses s f) (clicked : v.clicked .loadStarter = true) :
    Leads v config s (.error .rerun) (v.started f s)
  | cleared {f : Framework} (chosen : v.Chooses s f) (unstarted : v.clicked .loadStarter = false)
    (clicked : v.clicked .clearConsole = true) :
    Leads v config s (.error .rerun) { v.settled f s with console := [] }
  | lost {f : Framework} {fault : Raised} (settles : v.Settles s f)
    (missing : ¬v.Finds (v.settled f s)) :
    Leads v config s (.error (.fault fault)) (v.opened (v.settled f s))
  | added {f : Framework} (settles : v.Settles s f) (found : v.Finds (v.settled f s))
    (adds : v.Adds (v.edited (v.settled f s))) :
    Leads v config s (.error .rerun) (v.added (v.edited (v.settled f s)))
  | removed {f : Framework} {key : String} (settles : v.Settles s f)
    (found : v.Finds (v.settled f s)) (rejects : ¬v.Adds (v.edited (v.settled f s)))
    (opened : v.key? (v.settled f s) = some key) (clicked : v.clicked (.remove key) = true) :
    Leads v config s (.error .rerun) (v.removed key (v.edited (v.settled f s)))
  | stopped {f : Framework} {fault : Raised} (settles : v.Settles s f)
    (keeps : v.Keeps (v.settled f s))
    (failed : v.previewed config (v.edited (v.settled f s)) = .error fault) :
    Leads v config s (.error (.fault fault)) (v.edited (v.settled f s))
  | unstored {f : Framework} {s' : Session} {e : ArchiveError} (settles : v.Settles s f)
    (keeps : v.Keeps (v.settled f s))
    (previewed : v.previewed config (v.edited (v.settled f s)) = .ok s')
    (refused : Archive.entries s'.files = .error e) :
    Leads v config s (.error (.fault (archiveFault e))) s'
  | done {f : Framework} {s' : Session} {entries : List ArchiveEntry} (settles : v.Settles s f)
    (keeps : v.Keeps (v.settled f s))
    (previewed : v.previewed config (v.edited (v.settled f s)) = .ok s')
    (stored : Archive.entries s'.files = .ok entries) :
    Leads v config s (.ok ()) s'

private theorem result_sidebar_of_settles (config : Config) {st : State}
    (settles : v.Settles st.session f) :
    result (sidebar v config) st = (.ok (), st.withSession (v.settled f st.session)) := by
  simp only [result_sidebar_of_chooses v config settles.chosen, settles.unstarted,
    settles.uncleared, Bool.false_eq_true, ↓reduceIte]

private theorem result_files_of_keeps {st : State} (keeps : v.Keeps st.session) :
    result (files v) st = (.ok (), st.withSession (v.edited st.session)) := by
  rw [result_files_of_not_adds v keeps.found keeps.rejects]
  cases opened : v.key? st.session with
  | none => rfl
  | some key =>
      simp only [Option.elim_some, keeps.unremoved key opened, Bool.false_eq_true, ↓reduceIte]

/-- A run that does not get past the sidebar has ended there. -/
theorem settles_or_leads (v : Visit) (config : Config) (st : State) :
    (∃ f, v.Settles st.session f) ∨
      ∃ stop s', result (sidebar v config) st = (.error stop, st.withSession s') ∧
        Leads v config st.session (.error stop) s' := by
  by_cases known : ∃ f, v.Chooses st.session f
  · obtain ⟨f, chosen⟩ := known
    have ended := result_sidebar_of_chooses v config chosen
    cases started : v.clicked .loadStarter with
    | true =>
        rw [started] at ended
        exact .inr ⟨_, _, ended, .started chosen started⟩
    | false =>
        rw [started] at ended
        cases cleared : v.clicked .clearConsole with
        | true =>
            rw [cleared] at ended
            exact .inr ⟨_, _, ended, .cleared chosen started cleared⟩
        | false => exact .inl ⟨f, chosen, started, cleared⟩
  · have unknown := not_exists.1 known
    obtain ⟨fault, ended⟩ := result_sidebar_of_not_chooses v config unknown
    exact .inr ⟨_, _, ended, .unchosen unknown⟩

/-- A run that does not get past the editor has ended there. -/
theorem keeps_or_leads (config : Config) {st : State} (settles : v.Settles s f)
    (session : st.session = v.settled f s) :
    v.Keeps (v.settled f s) ∨
      ∃ stop s', result (files v) st = (.error stop, st.withSession s') ∧
        Leads v config s (.error stop) s' := by
  rw [← session]
  by_cases found : v.Finds st.session
  · by_cases adds : v.Adds (v.edited st.session)
    · refine .inr ⟨_, _, result_files_of_adds v found adds, ?_⟩
      rw [session] at found adds ⊢
      exact .added settles found adds
    · by_cases kept : ∀ key, v.key? st.session = some key → v.clicked (.remove key) = false
      · exact .inl ⟨found, adds, kept⟩
      · obtain ⟨key, opened, clicked⟩ :
            ∃ key, v.key? st.session = some key ∧ v.clicked (.remove key) = true := by
          simpa using kept
        refine .inr ⟨.rerun, v.removed key (v.edited st.session), ?_, ?_⟩
        · rw [result_files_of_not_adds v found adds, opened, Option.elim_some, clicked]
          rfl
        · rw [session] at found adds opened ⊢
          exact .removed settles found adds opened clicked
  · obtain ⟨fault, ended⟩ := result_files_of_not_finds v found
    refine .inr ⟨_, _, ended, ?_⟩
    rw [session] at found ⊢
    exact .lost settles found

/-- A run that gets past the sidebar and the editor builds, if it is to, and puts the files
into an archive. -/
theorem result_body_of_keeps {st : State} (settles : v.Settles st.session f)
    (keeps : v.Keeps (v.settled f st.session)) :
    result (body v config) st =
      andThen ((v.previewed config (v.edited (v.settled f st.session))).mapError .fault,
          (st.under config).withSession (v.edited (v.settled f st.session))) fun s' st =>
        (((Archive.entries s'.files).map fun _ => ()).mapError fun e => .fault (archiveFault e),
          st.withSession s') := by
  have passes : v.Settles (st.under config).session f := settles
  have opens : v.Keeps ((st.under config).withSession (v.settled f st.session)).session := keeps
  rw [result_body, result_sidebar_of_settles config passes, andThen_ok, State.session_under,
    result_files_of_keeps opens]
  rfl

private theorem leads_body (v : Visit) (config : Config) (st : State) : ∃ ends s',
    result (body v config) st = (ends, (st.under config).withSession s') ∧
      Leads v config st.session ends s' := by
  rcases settles_or_leads v config (st.under config) with
    ⟨f, settles⟩ | ⟨stop, s', ended, leads⟩
  · have passed := result_sidebar_of_settles config settles
    rw [State.session_under] at settles passed
    have opened : ((st.under config).withSession (v.settled f st.session)).session =
      v.settled f st.session := rfl
    rcases keeps_or_leads config settles opened with keeps | ⟨stop, s', ended, leads⟩
    · rw [result_body_of_keeps settles keeps]
      cases previewed : v.previewed config (v.edited (v.settled f st.session)) with
      | error fault => exact ⟨_, _, rfl, .stopped settles keeps previewed⟩
      | ok s' =>
          simp only [Except.mapError, andThen_ok]
          cases stored : Archive.entries s'.files with
          | error e => exact ⟨_, _, rfl, .unstored settles keeps previewed stored⟩
          | ok entries => exact ⟨_, _, rfl, .done settles keeps previewed stored⟩
    · refine ⟨.error stop, s', ?_, leads⟩
      rw [result_body, passed, andThen_ok, ended, andThen_error]
      rfl
  · refine ⟨.error stop, s', ?_, leads⟩
    rw [result_body, ended, andThen_error]

/-- How a run with the visit ends. -/
def ending (v : Visit) (st : State) : Except Stop Unit := (run v st).value.1

/-- What a run with the visit leaves behind. -/
def after (v : Visit) (st : State) : State := (run v st).value.2

/-- Every run under a configuration leads where one of the ways leads, and the
configuration stays. -/
theorem leads_run {st : State} {number : Nat}
    (valid : st.settings.config.2 = .ok (number, config)) :
    Leads v config st.session (ending v st) (after v st).session ∧
      (after v st).settings.config.2 = .ok (number, config) := by
  obtain ⟨ends, s', ended, leads⟩ :=
    leads_body v config { st with settings := st.settings.config.1 }
  have whole : result (page v) st = _ := (result_page v valid).trans ended
  have ending : ending v st = ends := congrArg Prod.fst whole
  have left : after v st = _ := congrArg Prod.snd whole
  rw [ending, left]
  exact ⟨leads, Settings.config_of_config valid⟩

/-- The visits lead from a fresh session under the configuration to the state. -/
inductive Sitting (config : Config) : List Visit → State → Prop
  | fresh {st : State} {number : Nat} (session : st.session = {})
    (valid : st.settings.config.2 = .ok (number, config)) : Sitting config [] st
  | visit {visits : List Visit} {st : State} (before : Sitting config visits st) (v : Visit) :
    Sitting config (visits ++ [v]) (after v st)

namespace Sitting

variable {visits : List Visit} {st : State}

/-- The sitting under the usual configuration that has not begun. -/
theorem fresh_usual : Sitting .usual [] { settings := { env := .empty } } :=
  .fresh rfl Settings.config_usual

private theorem valid (sitting : Sitting config visits st) :
    ∃ number, st.settings.config.2 = .ok (number, config) := by
  induction sitting with
  | fresh session valid => exact ⟨_, valid⟩
  | visit before v ih =>
      obtain ⟨number, valid⟩ := ih
      exact ⟨number, (leads_run valid).2⟩

/-- A further visit of a sitting leads from its session to the next one. -/
theorem leads (sitting : Sitting config visits st) (v : Visit) :
    Leads v config st.session (ending v st) (after v st).session := by
  obtain ⟨number, valid⟩ := sitting.valid
  exact (leads_run valid).1

/-- What holds of a fresh session and is kept wherever a visit leads holds after any
visits. -/
theorem invariant {property : Session → Prop} (initial : property {})
    (kept : ∀ v s ends s', property s → Leads v config s ends s' → property s')
    (sitting : Sitting config visits st) : property st.session := by
  induction sitting with
  | fresh session valid => rwa [session]
  | visit before v ih => exact kept v _ _ _ ih (before.leads v)

end Sitting

end Page

end WebPreview
