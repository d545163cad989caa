import WebPreview.Proofs.Archive.Entries
import WebPreview.Proofs.Page.Files
import WebPreview.Proofs.Pipeline.Faults

/-! # How a run ends

With a script engine that only refuses, nothing on the page stops a run but the archive of the
project. It is made on every run that gets to the end of the page, and a file whose key leaves no
name for its entry, such as `/`, or one that is too long, cannot be put into it
(`WebPreview.Archive.refusal?`). The row that adds files takes every name that is not blank. So a
run is to be run again, or completes, or ends with the fault of the first key that the archive
refuses (`WebPreview.Page.Sitting.ending_iff`), and once such a file has been added, all the runs
that are not broken off before end with that fault, until it is taken away.
-/

namespace WebPreview

namespace Page

variable {v : Visit} {config : Config} {s s' : Session} {visits : List Visit} {st : State}

/-- Something is clicked that breaks the run off so that the page is run again. -/
inductive Visit.Restarts (v : Visit) (s : Session) : Prop
  | starting (clicked : v.clicked .loadStarter = true)
  | clearing (clicked : v.clicked .clearConsole = true)
  | adding (adds : v.Adds s)
  | removing {key : String} (opened : v.key? s = some key)
    (clicked : v.clicked (.remove key) = true)

private theorem not_restarts {f : Framework} (settles : v.Settles s f)
    (keeps : v.Keeps (v.settled f s)) :
    ¬v.Restarts s := by
  intro restarts
  cases restarts with
  | starting clicked => exact absurd clicked (Bool.eq_false_iff.1 settles.unstarted)
  | clearing clicked => exact absurd clicked (Bool.eq_false_iff.1 settles.uncleared)
  | adding adds => exact keeps.rejects ((adds_iff_of_finds keeps.found).2 adds)
  | removing opened clicked =>
      have unremoved := keeps.unremoved _ (key?_settled.trans opened)
      exact absurd clicked (Bool.eq_false_iff.1 unremoved)

private theorem not_restarts_of_unclicked (unclicked : v.clicks = []) : ¬v.Restarts s := by
  have none (b : Button) : v.clicked b ≠ true := by
    rw [Visit.clicked, unclicked]
    nofun
  intro restarts
  cases restarts with
  | starting clicked => exact none _ clicked
  | clearing clicked => exact none _ clicked
  | adding adds => exact none _ adds.clicked
  | removing opened clicked => exact none _ clicked

private theorem exists_previewed (refuses : v.engine.OnlyRefuses) (config : Config) (s : Session) :
    ∃ s', v.previewed config s = .ok s' := by
  unfold Visit.previewed
  split
  · obtain ⟨outcome, built⟩ :=
      Pipeline.exists_value_compile refuses (v.compiler config) s.framework s.files
    rw [Visit.build, built]
    exact ⟨_, rfl⟩
  · exact ⟨s, rfl⟩

private theorem refusal?_starter (f : Framework) :
    ∀ key ∈ (Starter.files f).names, Archive.refusal? key = none := by
  cases f <;> decide +kernel

/-- How a run ends that is not broken off: as the archive of the files does. -/
def archived (names : List String) : Except Stop Unit :=
  (names.findSome? Archive.refusal?).elim (.ok ()) fun e => .error (.fault (archiveFault e))

/-- A run with what is offered and an engine that only refuses is broken off by a click, or ends
as the archive does. -/
theorem restarts_or_archived {ends : Except Stop Unit} (leads : Leads v config s ends s')
    (listed : s.Listed) (offered : v.Offered s) (refuses : v.engine.OnlyRefuses) :
    (v.Restarts s ∧ ends = .error .rerun) ∨ (¬v.Restarts s ∧ ends = archived s.files.names) := by
  have names {f : Framework} (keeps : v.Keeps (v.settled f s))
      (previewed : v.previewed config (v.edited (v.settled f s)) = .ok s') :
      s'.files.names = s.files.names := by
    rw [(previewed_keeps previewed).1, names_of_finds keeps.found]
  cases leads with
  | unchosen unknown =>
      obtain ⟨f, chosen⟩ := offered.chooses listed
      exact absurd chosen (unknown f)
  | started chosen clicked => exact .inl ⟨.starting clicked, rfl⟩
  | cleared chosen unstarted clicked => exact .inl ⟨.clearing clicked, rfl⟩
  | lost settles missing => exact absurd offered.finds.settled missing
  | added settles found adds =>
      exact .inl ⟨.adding ((adds_iff_of_finds found).1 adds), rfl⟩
  | removed settles found rejects opened clicked =>
      exact .inl ⟨.removing (key?_settled.symm.trans opened) clicked, rfl⟩
  | stopped settles keeps failed =>
      obtain ⟨s', previewed⟩ := exists_previewed refuses config (v.edited (v.settled _ s))
      cases previewed.symm.trans failed
  | unstored settles keeps previewed refused =>
      refine .inr ⟨not_restarts settles keeps, ?_⟩
      rw [archived, ← names keeps previewed, Archive.entries_eq_error_iff.1 refused]
      rfl
  | done settles keeps previewed stored =>
      refine .inr ⟨not_restarts settles keeps, ?_⟩
      rw [archived, ← names keeps previewed, Archive.entries_eq_ok stored]
      rfl

namespace Sitting

private theorem ending_of_restarts (sitting : Sitting config visits st)
    (offered : v.Offered st.session)
    (refuses : v.engine.OnlyRefuses) (restarts : v.Restarts st.session) :
    ending v st = .error .rerun := by
  rcases restarts_or_archived (sitting.leads v) sitting.listed offered refuses with
    ⟨-, ended⟩ | ⟨passes, -⟩
  · exact ended
  · exact absurd restarts passes

private theorem ending_of_passes (sitting : Sitting config visits st)
    (offered : v.Offered st.session)
    (refuses : v.engine.OnlyRefuses) (passes : ¬v.Restarts st.session) :
    ending v st = archived st.session.files.names := by
  rcases restarts_or_archived (sitting.leads v) sitting.listed offered refuses with
    ⟨restarts, -⟩ | ⟨-, ended⟩
  · exact absurd restarts passes
  · exact ended

/-- A run of a fresh project completes if nothing is clicked. -/
theorem ending_of_unclicked (offered : v.Offered {}) (refuses : v.engine.OnlyRefuses)
    (unclicked : v.clicks = []) : ending v { settings := { env := .empty } } = .ok () := by
  have passes : ¬v.Restarts {} := not_restarts_of_unclicked unclicked
  have stored := List.findSome?_eq_none_iff.2 (refusal?_starter .vanilla)
  rw [Sitting.fresh_usual.ending_of_passes offered refuses passes, archived, stored]
  rfl

end Sitting

/-- After any visits, how a run ends whose visit gives what is offered, with an engine that only
refuses. It is broken off by a click, or completes if the archive takes every file, or ends with
the fault of the first one that the archive refuses. -/
theorem Sitting.ending_iff (sitting : Sitting config visits st) (offered : v.Offered st.session)
    (refuses : v.engine.OnlyRefuses) :
    (ending v st = .error .rerun ↔ v.Restarts st.session) ∧
    (ending v st = .ok () ↔ ¬v.Restarts st.session ∧
      ∀ key ∈ st.session.files.names, Archive.refusal? key = none) ∧
    ∀ fault, ending v st = .error (.fault fault) ↔ ¬v.Restarts st.session ∧
      ∃ e, st.session.files.names.findSome? Archive.refusal? = some e ∧
        fault = archiveFault e := by
  rcases Classical.em (v.Restarts st.session) with restarts | passes
  · rw [sitting.ending_of_restarts offered refuses restarts]
    refine ⟨iff_of_true rfl restarts, iff_of_false nofun fun left => left.1 restarts, ?_⟩
    exact fun fault => iff_of_false nofun fun left => left.1 restarts
  · rw [sitting.ending_of_passes offered refuses passes, archived, ← List.findSome?_eq_none_iff]
    cases st.session.files.names.findSome? Archive.refusal? with
    | none =>
        rw [Option.elim_none]
        refine ⟨iff_of_false nofun passes, iff_of_true rfl ⟨passes, rfl⟩, fun fault => ?_⟩
        refine iff_of_false nofun fun left => ?_
        obtain ⟨-, e, there, -⟩ := left
        cases there
    | some e =>
        rw [Option.elim_some]
        refine ⟨iff_of_false ?_ passes, iff_of_false nofun ?_, fun fault => ?_⟩
        · intro ended
          cases ended
        · intro left
          cases left.2
        · constructor
          · intro same
            cases same
            exact ⟨passes, e, rfl, rfl⟩
          · intro left
            obtain ⟨-, other, there, rfl⟩ := left
            cases there
            rfl

/-- A fresh project is built, and completes. -/
theorem ending_iff_idle :
    let idle : Visit := {
      clock := "12:00:00"
      engine := .ok
      transport := fun _ _ => throw (.transport .connectError "refused") }
    let st : State := { settings := { env := .empty } }
    Sitting .usual [] st ∧ idle.Offered st.session ∧ idle.engine.OnlyRefuses ∧
      ending idle st = .ok () := by
  intro idle st
  have offered : idle.Offered st.session := ⟨nofun, nofun⟩
  have refuses : idle.engine.OnlyRefuses := nofun
  refine ⟨.fresh_usual, offered, refuses,
    (Sitting.fresh_usual.ending_iff offered refuses).2.1.2 ⟨?_, refusal?_starter .vanilla⟩⟩
  exact not_restarts_of_unclicked rfl

/-- A file under a slash is added to a fresh project. The page is run again, and that run ends
with a fault. -/
theorem ending_added_slash :
    let adding : Visit := {
      newName := some "/"
      clicks := [Button.add.label]
      clock := "12:00:00"
      engine := .ok
      transport := fun _ _ => throw (.transport .connectError "refused") }
    let next : Visit := { adding with newName := none, clicks := [] }
    let st : State := { settings := { env := .empty } }
    Sitting .usual [] st ∧ adding.Offered st.session ∧ adding.engine.OnlyRefuses ∧
      ending adding st = .error .rerun ∧
      next.Offered (after adding st).session ∧ next.engine.OnlyRefuses ∧
      ending next (after adding st) =
        .error (.fault (.other "IndexError" "string index out of range")) := by
  intro adding next st
  have sitting : Sitting .usual ([] ++ [adding]) (after adding st) := .visit .fresh_usual adding
  have refuses : adding.engine.OnlyRefuses := nofun
  have offered : next.Offered (after adding st).session := ⟨nofun, nofun⟩
  have names : (after adding st).session.files.names =
    ["index.html", "style.css", "script.js", "/"] := by decide +kernel
  have restarted : ending adding st = .error .rerun :=
    Sitting.fresh_usual.ending_of_restarts ⟨nofun, nofun⟩ refuses (.adding (by decide))
  refine ⟨.fresh_usual, ⟨nofun, nofun⟩, refuses, restarted, offered, refuses, ?_⟩
  have refused : (after adding st).session.files.names.findSome? Archive.refusal? =
      some .emptyName := by
    rw [names]
    decide +kernel
  rw [sitting.ending_of_passes offered refuses (not_restarts_of_unclicked rfl), archived, refused]
  rfl

end Page

end WebPreview
