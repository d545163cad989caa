import Mathlib.Data.List.Basic
import WebPreview.Proofs.Toolchain.Success

/-! # What runs where

A build asks its engine for two containers at most. The first one reaches the network, and
what it runs is fixed; the second one bundles the project, reaches nothing and cannot write,
and it is only asked for after the first one has ended well.

The events of a build are followed through its steps. Most steps ask for no container
(`WebPreview.Toolchain.Step.Idle`), and what the others leave behind has one of three shapes
(`WebPreview.Toolchain.Staged`). From the shape one reads what is true of every container
that is asked for (`WebPreview.Toolchain.compile_isolated`).
-/

namespace WebPreview

namespace Event

/-- The container that the event asks the engine to start, and what it is started with. -/
def asks? : Event → Option (Container × ContainerSpec)
  | .engine (.run c spec _) => some (c, spec)
  | _ => none

private theorem asks?_eq_none_of_isLog {event : Event} (quiet : event.IsLog) :
    event.asks? = none := by
  cases event with
  | log record => rfl
  | _ => exact quiet.elim

end Event

namespace Toolchain

/-- The containers that are asked for, in order, whether or not the engine refuses them. -/
def asked (trace : List Event) : List (Container × ContainerSpec) :=
  trace.filterMap Event.asks?

/-- What is asked in two traces is what is asked in both. -/
theorem asked_append (first second : List Event) :
    asked (first ++ second) = asked first ++ asked second :=
  List.filterMap_append

private theorem asked_run (c : Container) (spec : ContainerSpec) (listing : List String)
    (trace : List Event) :
    asked (.engine (.run c spec listing) :: trace) = (c, spec) :: asked trace :=
  rfl

/-- A container that is run is one that is asked for. -/
theorem mem_asked {trace : List Event} {c : Container} {spec : ContainerSpec}
    {listing : List String} (member : .engine (.run c spec listing) ∈ trace) :
    (c, spec) ∈ asked trace :=
  List.mem_filterMap.2 ⟨_, member, rfl⟩

private theorem asked_eq_nil_iff {trace : List Event} :
    asked trace = [] ↔ ∀ event ∈ trace, event.asks? = none :=
  List.filterMap_eq_nil_iff

/-- Log records ask for nothing. -/
theorem asked_of_logs {notes : List Event} (quiet : ∀ event ∈ notes, event.IsLog) :
    asked notes = [] :=
  asked_eq_nil_iff.2 fun event member => Event.asks?_eq_none_of_isLog (quiet event member)

/-- The events of a build by the containers asked for: none, the first one, or both. The
second one is asked for after the first one was waited for and has reported the status
zero. -/
inductive Staged (t : Toolchain) (engine : ContainerEngine) (framework : Framework)
    (entry : String) : List Event → Prop where
  | idle {trace : List Event} (none : asked trace = []) : Staged t engine framework entry trace
  | installing {before after : List Event} {listing : List String} (none : asked before = [])
      (last : asked after = []) :
      Staged t engine framework entry
        (before ++ .engine (.run .install t.installSpec listing) :: after)
  | bundling {before between after : List Event} {listing listing' : List String}
      (none : asked before = []) (alone : asked between = []) (last : asked after = [])
      (waited : .engine (.wait .install t.installLimit) ∈ between)
      (zero : engine.ReportsZero .install) :
      Staged t engine framework entry
        (before ++ .engine (.run .install t.installSpec listing) ::
          (between ++ .engine (.run .build (t.buildSpec framework entry) listing') :: after))

namespace Staged

variable {t : Toolchain} {engine : ContainerEngine} {framework : Framework} {entry : String}
  {trace quiet : List Event}

private theorem after_idle (none : asked quiet = [])
    (staged : Staged t engine framework entry trace) :
    Staged t engine framework entry (quiet ++ trace) := by
  cases staged with
  | idle still =>
      apply Staged.idle
      rw [asked_append, none, still, List.append_nil]
  | installing first last =>
      rw [← List.append_assoc]
      refine .installing ?_ last
      rw [asked_append, none, first, List.append_nil]
  | bundling first alone last waited zero =>
      rw [← List.append_assoc]
      refine .bundling ?_ alone last waited zero
      rw [asked_append, none, first, List.append_nil]

private theorem then_idle (staged : Staged t engine framework entry trace)
    (none : asked quiet = []) :
    Staged t engine framework entry (trace ++ quiet) := by
  cases staged with
  | idle still =>
      apply Staged.idle
      rw [asked_append, none, still, List.append_nil]
  | installing first last =>
      rw [List.append_assoc, List.cons_append]
      refine .installing first ?_
      rw [asked_append, none, last, List.append_nil]
  | bundling first alone last waited zero =>
      rw [List.append_assoc, List.cons_append, List.append_assoc, List.cons_append]
      refine .bundling first alone ?_ waited zero
      rw [asked_append, none, last, List.append_nil]

private theorem asked_installing {before after : List Event} {spec : ContainerSpec}
    {listing : List String} (none : asked before = []) (last : asked after = []) :
    asked (before ++ .engine (.run .install spec listing) :: after) = [(.install, spec)] := by
  rw [asked_append, asked_run, none, last, List.nil_append]

/-- The containers asked for are, in order, the first one and the second one, or the first
one, or none. -/
theorem asked_prefix (staged : Staged t engine framework entry trace) :
    asked trace <+: [(.install, t.installSpec), (.build, t.buildSpec framework entry)] := by
  cases staged with
  | idle none =>
      rw [none]
      exact List.nil_prefix
  | installing none last =>
      rw [asked_installing none last]
      exact ⟨[_], rfl⟩
  | bundling none alone last waited zero =>
      rw [asked_append, asked_run, asked_append, asked_run, none, alone, last]
      exact List.prefix_refl _

/-- A container that is asked for is the first one where none came before it, and the second
one otherwise. -/
theorem first_or_second (staged : Staged t engine framework entry trace)
    {before after : List Event} {c : Container} {spec : ContainerSpec} {listing : List String}
    (split : trace = before ++ .engine (.run c spec listing) :: after) :
    asked before = [] ∧ spec = t.installSpec ∨
      asked before ≠ [] ∧ c = .build ∧ spec = t.buildSpec framework entry := by
  have leading := staged.asked_prefix
  rw [split, asked_append, asked_run] at leading
  cases earlier : asked before with
  | nil =>
      rw [earlier, List.nil_append, List.cons_prefix_cons] at leading
      exact .inl ⟨rfl, (Prod.mk.inj leading.1).2⟩
  | cons first others =>
      rw [earlier, List.cons_append, List.cons_prefix_cons] at leading
      cases others with
      | nil =>
          rw [List.nil_append, List.cons_prefix_cons] at leading
          obtain ⟨rfl, rfl⟩ := Prod.mk.inj leading.2.1
          exact .inr ⟨List.cons_ne_nil _ _, rfl, rfl⟩
      | cons second others =>
          have room := leading.2.length_le
          simp at room

/-- Where the second container is asked for, the first one came before it and was waited
for, and it has reported the status zero. -/
theorem waited (staged : Staged t engine framework entry trace) {before after : List Event}
    {spec : ContainerSpec} {listing : List String}
    (split : trace = before ++ .engine (.run .build spec listing) :: after) :
    .engine (.wait .install t.installLimit) ∈ before ∧ engine.ReportsZero .install := by
  have member : (.build, spec) ∈ asked trace := by
    rw [split]
    exact mem_asked (List.mem_append_right before List.mem_cons_self)
  cases staged with
  | idle none =>
      rw [none] at member
      cases member
  | installing none last =>
      rw [asked_installing none last, List.mem_singleton] at member
      cases member
  | @bundling front between rest listing₁ listing₂ none alone last waited zero =>
      have earlier : Event.engine (.run .build spec listing) ∉
          front ++ .engine (.run .install t.installSpec listing₁) :: between := by
        intro here
        have among := mem_asked here
        rw [asked_installing none alone, List.mem_singleton] at among
        cases among
      have later : Event.engine (.run .build spec listing) ∉ rest := by
        intro here
        have among := mem_asked here
        rw [last] at among
        cases among
      rw [← List.cons_append, ← List.append_assoc] at split
      obtain ⟨same, -⟩ := (List.append_cons_inj_of_notMem earlier later).1 split
      rw [← same]
      exact ⟨List.mem_append_right front (List.mem_cons_of_mem _ waited), zero⟩

end Staged

namespace Step

variable {α β : Type}

/-- The step asks for no container, whatever is held. -/
def Idle (step : Step α) : Prop := ∀ held, asked (step.run.run held).trace = []

private theorem idle_pure (a : α) : Idle (pure a : Step α) := fun _ => rfl

private theorem idle_ofExcept (result : Except Raised α) : Idle (ofExcept result) := fun _ => rfl

private theorem idle_unavailable (message : String) :
    Idle (unavailable message : Step α) := fun _ => rfl

private theorem idle_emit {event : Event} (quiet : event.asks? = none) : Idle (emit event) := by
  intro held
  apply asked_eq_nil_iff.2
  intro other member
  obtain rfl := List.mem_singleton.1 member
  exact quiet

private theorem idle_hold (change : Held → Held) : Idle (hold change) := fun _ => rfl

private theorem Idle.bind {step : Step α} {next : α → Step β} (first : Idle step)
    (second : ∀ a, (∃ held, (step.run.run held).value.1 = .ok a) → Idle (next a)) :
    Idle (step >>= next) := by
  intro held
  rcases value : (step.run.run held).value with ⟨result, held'⟩
  cases result with
  | ok a =>
      have there := second a ⟨held, congrArg Prod.fst value⟩ held'
      rw [run_bind_of_ok value, asked_append, first held, there, List.append_nil]
  | error fault =>
      rw [run_bind_of_error value]
      exact first held

private theorem idle_call {c : EngineCall} (quiet : (Event.engine c).asks? = none)
    (result : Except Raised α) : Idle (call c result) :=
  (idle_emit quiet).bind fun _ _ => idle_ofExcept result

end Step

/-- The step asks for this container and for no other one, and it does not end well without
having waited for it. -/
def Step.Runs {α : Type} (step : Step α) (c : Container) (spec : ContainerSpec)
    (limit : Seconds) : Prop :=
  ∀ held, ∃ listing after,
    (step.run.run held).trace = .engine (.run c spec listing) :: after ∧ asked after = [] ∧
      ∀ a, (step.run.run held).value.1 = .ok a → .engine (.wait c limit) ∈ after

private theorem Step.Runs.bind {α β : Type} {step : Step α} {next : α → Step β} {c : Container}
    {spec : ContainerSpec} {limit : Seconds} (first : step.Runs c spec limit)
    (second : ∀ a, (next a).Idle) : (step >>= next).Runs c spec limit := by
  intro held
  obtain ⟨listing, after, trace, alone, waited⟩ := first held
  rcases value : (step.run.run held).value with ⟨result, held'⟩
  cases result with
  | ok a =>
      have member := waited a (congrArg Prod.fst value)
      refine ⟨listing, after ++ ((next a).run.run held').trace, ?_, ?_, ?_⟩
      · rw [run_bind_of_ok value, trace, List.cons_append]
      · rw [asked_append, alone, second a held', List.append_nil]
      · intro b _
        exact List.mem_append_left _ member
  | error fault =>
      refine ⟨listing, after, ?_, alone, ?_⟩
      · rw [run_bind_of_error value, trace]
      · intro b ended
        rw [run_bind_of_error value] at ended
        cases ended

section Steps

variable (t : Toolchain) (engine : ContainerEngine)

private theorem idle_prepare (files : SourceSet) : (t.prepare files).Idle := by
  refine (Step.idle_emit rfl).bind fun _ _ => (Step.idle_hold _).bind fun _ _ => ?_
  exact (Step.idle_ofExcept _).bind fun _ _ => Step.idle_pure _

private theorem idle_ensureImage : (t.ensureImage engine).Idle := by
  refine (Step.idle_emit rfl).bind fun _ _ => ?_
  split
  · exact Step.idle_call rfl _
  · exact Step.idle_ofExcept _

private theorem idle_output (c : Container) (errors : Bool) : (output engine c errors).Idle :=
  (Step.idle_call rfl _).bind fun _ _ => Step.idle_pure _

private theorem runs_runContainer (fs : FileSystem) (c : Container) (spec : ContainerSpec)
    (limit : Seconds) : (t.runContainer engine fs c spec limit).Runs c spec limit := by
  intro held
  unfold runContainer
  cases (engine.container c).run with
  | error fault => exact ⟨_, [], rfl, rfl, fun _ ended => nomatch ended⟩
  | ok _ =>
      have member : Event.engine (.wait c limit) ∈ [.engine (.wait c limit)] :=
        List.mem_singleton_self _
      cases (engine.container c).wait with
      | error fault => exact ⟨_, [.engine (.wait c limit)], rfl, rfl, fun _ _ => member⟩
      | ok report => exact ⟨_, [.engine (.wait c limit)], rfl, rfl, fun _ _ => member⟩

private theorem runs_install (fs : FileSystem) :
    (t.install engine fs).Runs .install t.installSpec t.installLimit := by
  refine (runs_runContainer t engine fs .install _ _).bind fun status => ?_
  split
  · exact (idle_output engine .install true).bind fun _ _ => Step.idle_unavailable _
  · exact Step.idle_pure _

private theorem runs_bundle (fs : FileSystem) (framework : Framework) (entry : String) :
    (t.bundle engine fs framework entry).Runs .build (t.buildSpec framework entry)
      t.buildLimit := by
  refine (runs_runContainer t engine fs .build _ _).bind fun status => ?_
  refine (idle_output engine .build false).bind fun printed _ => ?_
  split
  · exact Step.idle_pure _
  · split
    · exact Step.idle_unavailable _
    · exact (idle_output engine .build true).bind fun _ _ =>
        (Step.idle_ofExcept _).bind fun _ _ => Step.idle_unavailable _

/-- The second container is asked for only after the first one has reported the status
zero. -/
theorem staged_phases (fs : FileSystem) (framework : Framework) (entry : String) (held : Held) :
    Staged t engine framework entry
      ((t.install engine fs >>= fun _ =>
        t.bundle engine fs framework entry).run.run held).trace := by
  obtain ⟨listing, after, trace, alone, waited⟩ := runs_install t engine fs held
  have none : asked ([] : List Event) = [] := rfl
  rcases value : ((t.install engine fs).run.run held).value with ⟨result, held'⟩
  cases result with
  | error fault =>
      rw [Step.run_bind_of_error value, trace]
      exact .installing none alone
  | ok _ =>
      have zero := ((yields_install t engine fs held ()).1 (congrArg Prod.fst value)).2
      obtain ⟨listing', last, trace', silent, -⟩ :=
        runs_bundle t engine fs framework entry held'
      have member := waited () (congrArg Prod.fst value)
      rw [Step.run_bind_of_ok value, trace, trace', List.cons_append]
      exact .bundling none alone silent member zero

variable {t engine}

private theorem Staged.bind_idle {α β : Type} {step : Step α} {next : α → Step β}
    {framework : Framework} {entry : String} (first : step.Idle)
    (second : ∀ a held, Staged t engine framework entry ((next a).run.run held).trace)
    (held : Held) : Staged t engine framework entry ((step >>= next).run.run held).trace := by
  rcases value : (step.run.run held).value with ⟨result, held'⟩
  cases result with
  | ok a =>
      rw [Step.run_bind_of_ok value]
      exact (second a held').after_idle (first held)
  | error fault =>
      rw [Step.run_bind_of_error value]
      exact .idle (first held)

variable (t engine)

/-- **The steps keep the containers apart.** Wherever they stop, what they leave behind has
one of the three shapes. -/
theorem staged_steps (framework : Framework) (entry : String) (files : SourceSet) (held : Held) :
    Staged t engine framework entry
      ((t.steps engine framework entry files).run.run held).trace := by
  refine Staged.bind_idle (Step.idle_ofExcept _) (fun _ => ?_) held
  refine Staged.bind_idle (Step.idle_call rfl _) fun _ => ?_
  refine Staged.bind_idle (idle_prepare t files) fun fs => ?_
  refine Staged.bind_idle (idle_ensureImage t engine) fun _ => ?_
  exact staged_phases t engine fs framework entry

/-- Where the project cannot be written, no container is asked for. -/
theorem idle_steps_of_unwritten (framework : Framework) (entry : String) {files : SourceSet}
    (unwritten : (Project.writeFresh t.depths.make t.directory t.script files).1 ≠ .ok ()) :
    (t.steps engine framework entry files).Idle := by
  refine (Step.idle_ofExcept _).bind fun _ _ => (Step.idle_call rfl _).bind fun _ _ => ?_
  refine (idle_prepare t files).bind fun fs ended => ?_
  obtain ⟨held, made⟩ := ended
  have written := (yields_prepare t files held fs).1 made
  exact absurd (congrArg Prod.fst written) unwritten

end Steps

end Toolchain

namespace Project

private theorem unwritten_of_unsafe (room : Nat) (directory script : String) {files : SourceSet}
    {key : String} (member : key ∈ files.names) (refused : isSafeName key = false) :
    (writeFresh room directory script files).1 ≠ .ok () := by
  intro written
  obtain ⟨entry, here, rfl⟩ := List.mem_map.1 member
  have safe := (hasKind_of_writeFresh (Prod.ext written rfl) here).1
  rw [refused] at safe
  cases safe

end Project

namespace Toolchain

variable (t : Toolchain) (engine : ContainerEngine)

/-- Giving back asks for no container. -/
theorem asked_release (held : Held) : asked (t.release engine held).run.trace = [] := by
  have called (c : EngineCall) (result : Except Raised Unit) (note : String)
      (quiet : (Event.engine c).asks? = none) :
      Build.Emits (·.asks? = none) (tryCall c result note) := by
    refine .bind (.emit quiet) fun _ _ => .bind (.attempt ?_) fun outcome _ => ?_
    · exact fun event member => absurd member List.not_mem_nil
    · cases outcome with
      | ok _ => exact .pure _
      | error fault => exact .log rfl
  have one (c : Container) : Build.Emits (·.asks? = none) (releaseContainer engine c) :=
    .bind (called _ _ _ rfl) fun _ _ => called _ _ _ rfl
  have all (containers : List Container) :
      Build.Emits (·.asks? = none) (containers.forM (releaseContainer engine)) := by
    induction containers with
    | nil => exact .pure _
    | cons c rest ih => exact .bind (one c) fun _ _ => ih
  apply asked_eq_nil_iff.2
  refine Build.Emits.bind (all held.containers) fun _ _ => ?_
  cases held.project with
  | none => exact .pure _
  | some fs =>
      have unasked : Build.Emits (·.asks? = none)
          (Build.ofExcept (Project.remove t.depths.remove t.directory fs)) :=
        fun event member => absurd member List.not_mem_nil
      exact .bind unasked fun _ _ => .emit rfl

/-- A build asks for no container, for the install alone, or for the install and then the bundle. -/
theorem staged_build (framework : Framework) (entry : String) (files : SourceSet) :
    Staged t engine framework entry (t.build engine framework entry files).run.trace := by
  rw [trace_build, work, List.append_assoc]
  apply (staged_steps t engine framework entry files {}).then_idle
  rw [asked_append, asked_of_logs (emits_settle _), asked_release, List.append_nil]

/-- Files that cannot be written ask for no container. -/
theorem asked_build_of_unwritten (framework : Framework) (entry : String) {files : SourceSet}
    (unwritten : (Project.writeFresh t.depths.make t.directory t.script files).1 ≠ .ok ()) :
    asked (t.build engine framework entry files).run.trace = [] := by
  have idle := idle_steps_of_unwritten t engine framework entry unwritten
  rw [trace_build, work, asked_append, asked_append, idle, asked_of_logs (emits_settle _),
    asked_release]
  rfl

/-- **What runs where.** For projects that need no compiler, and where the files cannot be
chosen, a build does nothing at all, whatever the engine is. It asks for no container if a
file has an unsafe key or the project cannot be written, and never for more than two. A
container that reaches the network is the first one, and its command is always the same. A
further container is asked for only after the first one was waited for and has reported the
status zero, and it neither reaches the network nor writes to the project. -/
theorem compile_isolated (framework : Framework) (files : SourceSet) :
    (framework = .vanilla ∨ (∃ e, Selection.resolve framework files = .error e) →
      (t.compile engine framework files).run.trace = [] ∧
        ∀ other, t.compile other framework files = t.compile engine framework files) ∧
    ((∃ key ∈ files.names, Project.isSafeName key = false) ∨
        (Project.writeFresh t.depths.make t.directory t.script files).1 ≠ .ok () →
      asked (t.compile engine framework files).run.trace = []) ∧
    (asked (t.compile engine framework files).run.trace).length ≤ 2 ∧
    ∀ before c spec listing after,
      (t.compile engine framework files).run.trace =
          before ++ .engine (.run c spec listing) :: after →
        (spec.networked = true → asked before = [] ∧ spec.command = ["sh", "-c",
          "cd .previewkit && npm install --silent --no-audit --no-fund " ++
            "esbuild@0.19 react@18 react-dom@18 vue@3.3 svelte@4"]) ∧
        (asked before ≠ [] → spec.networked = false ∧ spec.writable = false ∧
          .engine (.wait .install t.installLimit) ∈ before ∧ engine.ReportsZero .install) := by
  by_cases stopped : framework = .vanilla ∨ ∃ e, Selection.resolve framework files = .error e
  · obtain ⟨reason, same⟩ := compile_of_stopped t stopped
    rw [same engine]
    refine ⟨fun _ => ⟨rfl, fun other => same other⟩, fun _ => rfl, Nat.zero_le 2, ?_⟩
    intro before c spec listing after split
    cases before <;> cases split
  · obtain ⟨component, unrefused⟩ := not_or.1 stopped
    obtain ⟨s, resolved⟩ : ∃ s, Selection.resolve framework files = .ok s := by
      cases resolved : Selection.resolve framework files with
      | error e => exact absurd ⟨e, resolved⟩ unrefused
      | ok s => exact ⟨s, rfl⟩
    obtain ⟨notes, trace, told⟩ := exists_trace_compile t engine component resolved
    have quiet := asked_of_logs told
    have staged := (staged_build t engine framework (entryName s) files).then_idle quiet
    rw [← trace] at staged
    refine ⟨fun idle => absurd idle stopped, fun unwritable => ?_,
      staged.asked_prefix.length_le, ?_⟩
    · have unwritten :
          (Project.writeFresh t.depths.make t.directory t.script files).1 ≠ .ok () := by
        rcases unwritable with ⟨key, member, refused⟩ | unwritten
        · exact Project.unwritten_of_unsafe _ _ _ member refused
        · exact unwritten
      rw [trace, asked_append, asked_build_of_unwritten t engine _ _ unwritten, quiet]
      rfl
    · intro before c spec listing after split
      rcases staged.first_or_second split with ⟨none, rfl⟩ | ⟨some, rfl, rfl⟩
      · exact ⟨fun _ => ⟨none, rfl⟩, fun some => absurd none some⟩
      · obtain ⟨waited, zero⟩ := staged.waited split
        exact ⟨nofun, fun _ => ⟨rfl, rfl, waited, zero⟩⟩

/-- Once the project is written, both containers are asked for. -/
theorem trace_compile_printing {files : SourceSet} {s : Selection} {fs : FileSystem}
    (resolved : Selection.resolve .react files = .ok s)
    (written : Project.writeFresh usualRoom standard.directory standard.script files =
      (.ok (), fs)) :
    ∃ listing after, (standard.compile (printing 0) .react files).run.trace =
      [.engine .ping, .openDirectory, .engine (.imageGet "node"),
        .engine (.run .install standard.installSpec listing),
        .engine (.wait .install (.whole 180))] ++
      .engine (.run .build (standard.buildSpec .react (entryName s)) listing) :: after := by
  obtain ⟨notes, trace, -⟩ := exists_trace_compile standard (printing 0) (by decide) resolved
  have steps : ((standard.steps (printing 0) .react (entryName s) files).run.run {}).trace =
      let listing := (Project.contents standard.directory fs).map Prod.fst
      [.engine .ping, .openDirectory, .engine (.imageGet "node"),
        .engine (.run .install standard.installSpec listing),
        .engine (.wait .install (.whole 180)),
        .engine (.run .build (standard.buildSpec .react (entryName s)) listing),
        .engine (.wait .build (.whole 120)), .engine (.logs .build false)] := by
    unfold Toolchain.steps prepare
    change Project.writeFresh standard.depths.make _ _ _ = _ at written
    rw [written]
    rfl
  rw [trace, trace_build, work, steps]
  exact ⟨_, _, rfl⟩

/-- How a compile of the page begins: the install runs before the build. -/
theorem trace_compile_paged : ∃ listing after,
    (standard.compile (printing 0) .react paged).run.trace =
      [.engine .ping, .openDirectory, .engine (.imageGet "node"),
        .engine (.run .install standard.installSpec listing),
        .engine (.wait .install (.whole 180))] ++
      .engine (.run .build (standard.buildSpec .react "a.jsx") listing) :: after := by
  obtain ⟨fs, made⟩ : ∃ fs, Project.writeFresh usualRoom standard.directory standard.script paged =
    (.ok (), fs) := ⟨_, Prod.ext writeFresh_paged rfl⟩
  obtain ⟨s, resolved, named⟩ :
    ∃ s, Selection.resolve .react paged = .ok s ∧ entryName s = "a.jsx" := ⟨_, rfl, rfl⟩
  rw [← named]
  exact trace_compile_printing resolved made

/-- A page and a script are built in two containers, and the second one is kept apart. With
a key that leads out of the project no container is asked for. -/
theorem compile_isolated_paged :
    (∃ before spec listing after, (standard.compile (printing 0) .react paged).run.trace =
        before ++ .engine (.run .build spec listing) :: after ∧ asked before ≠ [] ∧
      spec.networked = false ∧ spec.writable = false ∧
      .engine (.wait .install (.whole 180)) ∈ before ∧ (printing 0).ReportsZero .install) ∧
    (∃ key ∈ (SourceSet.ofContents [("index.html", ""), ("a.jsx", ""), ("b/../../c", "")]).names,
      Project.isSafeName key = false) ∧
    asked (standard.compile (printing 0) .react
      (.ofContents [("index.html", ""), ("a.jsx", ""), ("b/../../c", "")])).run.trace = [] ∧
    (standard.compile (printing 0) .vanilla paged).run.trace = [] := by
  have climbing : ∃ key ∈
      (SourceSet.ofContents [("index.html", ""), ("a.jsx", ""), ("b/../../c", "")]).names,
      Project.isSafeName key = false :=
    ⟨"b/../../c", by decide, by decide +kernel⟩
  refine ⟨?_, climbing, ?_, ?_⟩
  · obtain ⟨listing, after, split⟩ := trace_compile_paged
    have further := (compile_isolated standard (printing 0) .react paged).2.2.2 _ _ _ _ _ split
    exact ⟨_, _, _, _, split, List.cons_ne_nil _ _, further.2 (List.cons_ne_nil _ _)⟩
  · exact (compile_isolated standard (printing 0) .react _).2.1 (.inl climbing)
  · exact ((compile_isolated standard (printing 0) .vanilla paged).1 (.inl rfl)).1

end Toolchain

end WebPreview
