import WebPreview.Proofs.Keyed.Entries
import WebPreview.Proofs.Page.Visits

/-! # The files after a visit

A run changes the files in one place each: the button that loads a starter replaces them, the
editor replaces the content of one, the row below it adds one, and the button below that takes
one away. What is left after a run is therefore told from what was given and clicked
(`WebPreview.Page.Visit.leaves`), whichever way the run ends, and nothing that was written is
lost to a file that is added in the same run.
-/

namespace WebPreview

namespace Page

variable {v : Visit} {config : Config} {s s' : Session} {f : Framework}

/-- The visit gives nothing but what the page offers in the session: a framework that there
is and a file of the project. What is written is free. -/
structure Visit.Offered (v : Visit) (s : Session) : Prop where
  framework : ∀ id, v.framework = some id → id ∈ Framework.all.map Framework.id
  file : ∀ key, v.file = some key → key ∈ s.files.names

/-- The files with what was written in the editor. -/
def Visit.written (v : Visit) (s : Session) : List (String × SourceFile) :=
  s.files.entries.map fun p =>
    (p.1, if v.key? s = some p.1 then p.2.withContent (v.content.getD p.2.content) else p.2)

/-- The files that a run leaves behind with this framework. -/
def Visit.leaves (v : Visit) (f : Framework) (s : Session) : List (String × SourceFile) :=
  if v.clicked .loadStarter then (Starter.files f).entries
  else if v.clicked .clearConsole then s.files.entries
  else if v.Adds s then v.written s ++ [(v.typed, .ofName v.typed)]
  else (v.written s).filter fun p => !(v.key? s = some p.1 && v.clicked (.remove p.1))

/-- Settling the sidebar leaves the key that is shown. -/
@[simp] theorem key?_settled : v.key? (v.settled f s) = v.key? s := by
  have selected : (v.settled f s).selected = s.selected := by
    simp only [Visit.settled, Session.choose]
    split <;> rfl
  simp only [Visit.key?, Session.reselect, files_settled, selected]
  split
  · exact congrArg _ selected
  · rfl

/-- Settling the sidebar leaves what is written. -/
@[simp] theorem written_settled : v.written (v.settled f s) = v.written s := by
  simp only [Visit.written, files_settled, key?_settled]

/-- The names of the files are all that adding one looks at. -/
theorem adds_congr (names : s'.files.names = s.files.names) : v.Adds s' ↔ v.Adds s := by
  constructor <;> intro adds
  · exact ⟨adds.clicked, adds.named, names ▸ adds.fresh⟩
  · exact ⟨adds.clicked, adds.named, names.symm ▸ adds.fresh⟩

private theorem entries_edit (key text : String) :
    (s.edit key text).files.entries = s.files.entries.map fun p =>
      (p.1, if p.1 = key then p.2.withContent text else p.2) := by
  have whole : s.files.entries.map id = s.files.entries := List.map_id _
  cases here : s.files.get? key with
  | none =>
      have absent : key ∉ s.files.names := Keyed.get?_eq_none_iff.1 here
      simp only [Session.edit, here]
      apply whole.symm.trans
      apply List.map_congr_left
      intro p inside
      have different : ¬p.1 = key := fun same => absent (same ▸ Named.mem_names inside)
      rw [if_neg different, id_eq]
  | some file =>
      have value : ∀ p ∈ s.files.entries, p.1 = key → p.2 = file := fun p inside same =>
        Option.some.inj ((Named.get?_of_mem s.files.nodup (same ▸ inside)).symm.trans here)
      have member : key ∈ s.files.names := by
        rw [← Keyed.contains_iff, Keyed.contains, here, Option.isSome_some]
      simp only [Session.edit, here]
      -- A file that has this content already is left alone, which comes to the same.
      split
      · next unchanged =>
          apply whole.symm.trans
          apply List.map_congr_left
          intro p inside
          split
          · next same => rw [unchanged, ← value p inside same]; rfl
          · rfl
      · rw [Keyed.entries_put, Named.put_of_mem member s.files.nodup]
        apply List.map_congr_left
        intro p inside
        split
        · next same => rw [value p inside same]
        · rfl

/-- Editing changes the content of the file in the editor, and leaves the other files and the
order of all as they are. -/
theorem entries_edited (found : v.Finds s) : (v.edited s).files.entries = v.written s := by
  cases opened : v.key? s with
  | none =>
      rw [edited_of_none v opened, Visit.opened, files_reselect]
      simp only [Visit.written, opened, reduceCtorEq, ↓reduceIte]
      exact (List.map_id _).symm
  | some key =>
      obtain ⟨file, here⟩ :=
        Option.isSome_iff_exists.1 (Keyed.contains_iff.2 (found key opened))
      rw [edited_of_some v opened here, entries_edit, Visit.opened, files_reselect]
      apply List.map_congr_left
      intro p inside
      by_cases same : p.1 = key
      · have value : p.2 = file :=
          Option.some.inj ((Named.get?_of_mem s.files.nodup (same ▸ inside)).symm.trans here)
        simp only [opened, same, ↓reduceIte, value]
      · have other : ¬v.key? s = some p.1 := fun equal =>
          same (Option.some.inj (equal.symm.trans opened))
        rw [if_neg same, if_neg other]

private theorem names_written : Named.names (v.written s) = s.files.names := by
  simp only [Named.names, Visit.written, List.map_map]
  rfl

/-- An edit leaves the names of the files. -/
theorem names_edited (found : v.Finds s) : (v.edited s).files.names = s.files.names := by
  rw [Keyed.names, entries_edited found, names_written]

/-- The names of the files after the sidebar and the editor are those from before. -/
theorem names_of_finds (found : v.Finds (v.settled f s)) :
    (v.edited (v.settled f s)).files.names = s.files.names := by
  rw [names_edited found, files_settled]

/-- A file is added after the sidebar and the editor exactly if it would be before them. -/
theorem adds_iff_of_finds (found : v.Finds (v.settled f s)) :
    v.Adds (v.edited (v.settled f s)) ↔ v.Adds s :=
  adds_congr (names_of_finds found)

private theorem files_added (found : v.Finds s) (adds : v.Adds (v.edited s)) :
    (v.added (v.edited s)).files.entries = v.written s ++ [(v.typed, .ofName v.typed)] := by
  have fresh : v.typed ∉ Named.names (v.written s) := by
    rw [← entries_edited found]
    exact adds.fresh
  change Named.put v.typed (.ofName v.typed) (v.edited s).files.entries = _
  rw [entries_edited found, Named.put_of_not_mem fresh]

private theorem files_removed (found : v.Finds s) (key : String) :
    (v.removed key (v.edited s)).files.entries = (v.written s).filter fun p => p.1 != key := by
  rw [← entries_edited found]
  rfl

/-- Past the preview a build has ended, or there was to be none. -/
theorem previewed_cases (previewed : v.previewed config s = .ok s') :
    ((v.clicked .compile || s.autoCompile) = true ∧
      ∃ outcome, v.build config s = .ok outcome ∧ s' = s.built v.clock outcome) ∨
    ((v.clicked .compile || s.autoCompile) = false ∧ s' = s) := by
  unfold Visit.previewed at previewed
  split at previewed
  · next builds =>
      refine .inl ⟨builds, ?_⟩
      cases built : v.build config s with
      | error fault =>
          rw [built] at previewed
          cases previewed
      | ok outcome =>
          rw [built] at previewed
          exact ⟨outcome, rfl, (Except.ok.inj previewed).symm⟩
  · next idle => exact .inr ⟨Bool.eq_false_iff.2 idle, (Except.ok.inj previewed).symm⟩

/-- Building changes neither the files nor the framework. -/
theorem previewed_keeps (previewed : v.previewed config s = .ok s') :
    s'.files = s.files ∧ s'.framework = s.framework := by
  rcases previewed_cases previewed with ⟨-, outcome, -, rfl⟩ | ⟨-, rfl⟩
  · cases outcome <;> exact ⟨rfl, rfl⟩
  · exact ⟨rfl, rfl⟩

/-- The framework after a run is one that there is, or the one before. -/
theorem framework_of_leads {ends : Except Stop Unit} (leads : Leads v config s ends s') :
    s'.framework = s.framework ∨ ∃ f : Framework, s'.framework = f.id := by
  have edited (f : Framework) : (v.edited (v.settled f s)).framework = f.id := by
    rw [framework_edited, framework_settled]
  cases leads with
  | unchosen unknown => exact .inl rfl
  | started chosen clicked => exact .inr ⟨_, rfl⟩
  | cleared chosen unstarted clicked => exact .inr ⟨_, framework_settled v _ s⟩
  | lost settles missing =>
      rw [opened_eq]
      exact .inr ⟨_, framework_settled v _ s⟩
  | added settles found adds => exact .inr ⟨_, edited _⟩
  | removed settles found rejects opened clicked => exact .inr ⟨_, edited _⟩
  | stopped settles keeps failed => exact .inr ⟨_, edited _⟩
  | unstored settles keeps previewed refused =>
      exact .inr ⟨_, (previewed_keeps previewed).2.trans (edited _)⟩
  | done settles keeps previewed stored =>
      exact .inr ⟨_, (previewed_keeps previewed).2.trans (edited _)⟩

/-- The session's framework is one that there is. -/
def Session.Listed (s : Session) : Prop := s.framework ∈ Framework.all.map Framework.id

/-- The session of a sitting lists its files under their own names. -/
theorem Sitting.listed {visits : List Visit} {st : State} (sitting : Sitting config visits st) :
    st.session.Listed := by
  have initial : Session.Listed {} := List.mem_map_of_mem (Framework.mem_all .vanilla)
  apply sitting.invariant initial
  intro v s ends s' before leads
  rcases framework_of_leads leads with same | ⟨f, chosen⟩
  · rw [Session.Listed, same]
    exact before
  · rw [Session.Listed, chosen]
    exact List.mem_map_of_mem (Framework.mem_all f)

/-- What is offered can be chosen. -/
theorem Visit.Offered.chooses (offered : v.Offered s) (listed : s.Listed) :
    ∃ f, v.Chooses s f := by
  have named : v.framework.getD s.framework ∈ Framework.all.map Framework.id := by
    cases given : v.framework with
    | none => exact listed
    | some id => exact offered.framework id given
  obtain ⟨f, -, same⟩ := List.mem_map.1 named
  exact ⟨f, listed, same⟩

/-- What is chosen when none else is given is one of the files. -/
theorem mem_of_reselect {key : String} (shown : s.reselect.selected = some key) :
    key ∈ s.files.names := by
  unfold Session.reselect at shown
  split at shown
  · next there =>
      rw [shown] at there
      exact Keyed.contains_iff.1 there
  · exact List.mem_of_head? shown

/-- A visit that only uses what is offered finds its file. -/
theorem Visit.Offered.finds (offered : v.Offered s) : v.Finds s := by
  intro key opened
  obtain ⟨shown, selected, same⟩ := Option.map_eq_some_iff.1 opened
  cases given : v.file with
  | some other =>
      rw [given] at same
      exact offered.file key (given.trans (congrArg some same))
  | none =>
      rw [given] at same
      exact same ▸ mem_of_reselect selected

/-- A visit finds its file after the sidebar if it does before. -/
theorem Visit.Finds.settled (found : v.Finds s) : v.Finds (v.settled f s) := by
  intro key opened
  rw [files_settled]
  rw [key?_settled] at opened
  exact found key opened

private theorem leaves_of_adds (settles : v.Settles s f) (adds : v.Adds s) :
    v.leaves f s = v.written s ++ [(v.typed, .ofName v.typed)] := by
  simp only [Visit.leaves, settles.unstarted, settles.uncleared, adds, Bool.false_eq_true,
    ↓reduceIte]

private theorem leaves_of_not_adds (settles : v.Settles s f) (rejects : ¬v.Adds s) :
    v.leaves f s =
      (v.written s).filter fun p => !(v.key? s = some p.1 && v.clicked (.remove p.1)) := by
  simp only [Visit.leaves, settles.unstarted, settles.uncleared, rejects, Bool.false_eq_true,
    ↓reduceIte]

private theorem leaves_of_removed {key : String} (settles : v.Settles s f) (rejects : ¬v.Adds s)
    (opened : v.key? s = some key) (clicked : v.clicked (.remove key) = true) :
    v.leaves f s = (v.written s).filter fun p => p.1 != key := by
  rw [leaves_of_not_adds settles rejects]
  apply List.filter_congr
  intro p inside
  by_cases same : p.1 = key
  · simp only [same, opened, clicked, bne_self_eq_false, decide_true, Bool.and_self, Bool.not_true]
  · have other : ¬v.key? s = some p.1 := fun equal =>
      same (Option.some.inj (equal.symm.trans opened))
    rw [decide_eq_false other, Bool.false_and, Bool.not_false]
    exact (bne_iff_ne.2 same).symm

private theorem leaves_of_keeps (settles : v.Settles s f) (keeps : v.Keeps (v.settled f s)) :
    v.leaves f s = v.written s := by
  rw [leaves_of_not_adds settles (mt (adds_iff_of_finds keeps.found).2 keeps.rejects)]
  apply List.filter_eq_self.2
  intro p inside
  by_cases opened : v.key? s = some p.1
  · rw [keeps.unremoved p.1 (key?_settled.trans opened), Bool.and_false, Bool.not_false]
  · rw [decide_eq_false opened, Bool.false_and, Bool.not_false]

/-- Wherever a visit leads that gives what is offered, the files are those that it leaves
behind with a framework that it chooses. -/
theorem files_of_leads {ends : Except Stop Unit} (leads : Leads v config s ends s')
    (listed : s.Listed) (offered : v.Offered s) :
    ∃ f, v.Chooses s f ∧ s'.files.entries = v.leaves f s := by
  have kept {f : Framework} (settles : v.Settles s f) (keeps : v.Keeps (v.settled f s)) :
      (v.edited (v.settled f s)).files.entries = v.leaves f s := by
    rw [entries_edited keeps.found, written_settled, leaves_of_keeps settles keeps]
  cases leads with
  | unchosen unknown =>
      obtain ⟨f, chosen⟩ := offered.chooses listed
      exact absurd chosen (unknown f)
  | started chosen clicked =>
      refine ⟨_, chosen, ?_⟩
      rw [Visit.leaves, if_pos clicked]
      rfl
  | cleared chosen unstarted clicked =>
      refine ⟨_, chosen, ?_⟩
      simp only [Visit.leaves, unstarted, clicked, Bool.false_eq_true, ↓reduceIte, files_settled]
  | lost settles missing => exact absurd offered.finds.settled missing
  | added settles found adds =>
      refine ⟨_, settles.chosen, ?_⟩
      rw [files_added found adds, written_settled,
        leaves_of_adds settles ((adds_iff_of_finds found).1 adds)]
  | removed settles found rejects opened clicked =>
      refine ⟨_, settles.chosen, ?_⟩
      rw [files_removed found, written_settled, leaves_of_removed settles
        (mt (adds_iff_of_finds found).2 rejects) (key?_settled.symm.trans opened) clicked]
  | stopped settles keeps failed => exact ⟨_, settles.chosen, kept settles keeps⟩
  | unstored settles keeps previewed refused =>
      refine ⟨_, settles.chosen, ?_⟩
      rw [(previewed_keeps previewed).1, kept settles keeps]
  | done settles keeps previewed stored =>
      refine ⟨_, settles.chosen, ?_⟩
      rw [(previewed_keeps previewed).1, kept settles keeps]

/-- After any visits, a run whose visit gives what is offered leaves these files behind. What
was written in the editor is there even if a file was added in the same run. -/
theorem Sitting.files_after {visits : List Visit} {st : State} (sitting : Sitting config visits st)
    (offered : v.Offered st.session) :
    (∃ f : Framework, f.id = v.framework.getD st.session.framework ∧
      (after v st).session.files.entries = v.leaves f st.session) ∧
    ∀ key file, v.clicked .loadStarter = false → v.clicked .clearConsole = false →
      v.Adds st.session → v.key? st.session = some key → st.session.files.get? key = some file →
      (after v st).session.files.get? key =
        some (file.withContent (v.content.getD file.content)) := by
  obtain ⟨f, chosen, left⟩ := files_of_leads (sitting.leads v) sitting.listed offered
  refine ⟨⟨f, chosen.named, left⟩, fun key file unstarted uncleared adds opened here => ?_⟩
  have inside : (key, file.withContent (v.content.getD file.content)) ∈ v.written st.session :=
    List.mem_map.2 ⟨(key, file), Named.mem_of_get? here, by rw [if_pos opened]⟩
  apply Named.get?_of_mem (after v st).session.files.nodup
  rw [left, Visit.leaves, if_neg (Bool.eq_false_iff.1 unstarted),
    if_neg (Bool.eq_false_iff.1 uncleared), if_pos adds]
  exact List.mem_append_left _ inside

/-- The page is written anew and a component is added in one run of a fresh session. -/
theorem files_after_written_added :
    let visit : Visit := {
      content := some "<p>new</p>"
      newName := some " App.jsx "
      clicks := [Button.add.label]
      clock := "12:00:00"
      engine := .ok
      transport := fun _ _ => throw (.transport .connectError "refused") }
    let st : State := { settings := { env := .empty } }
    Sitting .usual [] st ∧ visit.Offered st.session ∧ visit.Adds st.session ∧
      (after visit st).session.files.get? "index.html" =
        some (SourceFile.ofName "index.html" "<p>new</p>") := by
  intro visit st
  have sitting : Sitting .usual [] st := .fresh_usual
  have offered : visit.Offered st.session := ⟨nofun, nofun⟩
  have adds : visit.Adds st.session := by decide
  refine ⟨sitting, offered, adds, ?_⟩
  exact (sitting.files_after offered).2 "index.html" _ rfl rfl adds rfl rfl

end Page

end WebPreview
