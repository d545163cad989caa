import WebPreview.Proofs.Build.Laws
import WebPreview.Proofs.Toolchain.Account
import WebPreview.Proofs.Toolchain.Chain
import WebPreview.Toolchain.Compile

/-! # Giving back what a build holds

Whatever the engine does, each container that a build has started is stopped once and removed once,
and a fault in that keeps nothing else from being given back. The project directory is removed
after that if it was made, and the build ends in an outcome
(`WebPreview.Toolchain.compile_gives_all_back`). It takes a project that lies deeper than there is
room for calls to stop this: then the directory stays, and the build raises a fault
(`WebPreview.Toolchain.compile_raises_of_deep`).
-/

namespace WebPreview

namespace Toolchain

/-- What giving back the containers comes to in calls: each is stopped and then
removed, in the order in which they were started. -/
def releaseCalls (containers : List Container) : List EngineCall :=
  containers.flatMap fun c => [.stop c, .remove c]

/-- The event is a log record or a call to the engine. -/
def IsCallOrLog : Event → Prop
  | .log _ | .engine _ => True
  | _ => False

/-- **Everything is given back.** After the work, in which nothing is given back and no container
is started twice, every container that was started is stopped once and then removed once, and
nothing else is called. The project directory is removed after that if the work made it, unless it
cannot be cleared. What follows is only told to the log. -/
def GivesAllBack (engine : ContainerEngine) (clears : Bool) (trace : List Event) : Prop :=
  ∃ work cleanup told,
    trace = work ++ cleanup ++
      (if work.any Event.opens && clears then [.removeDirectory] else []) ++ told ∧
    (∀ event ∈ work, ¬event.GivesBack) ∧ (started engine work).Nodup ∧
    cleanup.filterMap Event.call? = releaseCalls (started engine work) ∧
    (∀ event ∈ cleanup, IsCallOrLog event) ∧ ∀ event ∈ told, event.IsLog

namespace GivesAllBack

variable {engine : ContainerEngine} {clears : Bool} {trace notes : List Event}

private theorem nil : GivesAllBack engine clears [] :=
  ⟨[], [], [], rfl, by simp, List.nodup_nil, rfl, by simp, by simp⟩

private theorem then_logs (given : GivesAllBack engine clears trace)
    (quiet : ∀ event ∈ notes, event.IsLog) : GivesAllBack engine clears (trace ++ notes) := by
  obtain ⟨work, cleanup, told, split, kept, once, calls, only, logs⟩ := given
  refine ⟨work, cleanup, told ++ notes, ?_, kept, once, calls, only, ?_⟩
  · rw [split, List.append_assoc]
  · intro event member
    rw [List.mem_append] at member
    exact member.elim (logs event) (quiet event)

end GivesAllBack

/-- The step ends well, makes exactly these calls, and apart from them only writes to
the log. -/
structure Releases (calls : List EngineCall) (step : Build Unit) : Prop where
  value : step.run.value = .ok ()
  trace : step.run.trace.filterMap Event.call? = calls
  quiet : Build.Emits IsCallOrLog step

namespace Releases

private theorem bind {first second : List EngineCall} {step next : Build Unit}
    (here : Releases first step) (there : Releases second next) :
    Releases (first ++ second) (step >>= fun _ => next) where
  value := by rw [Build.value_bind, here.value, Except.bind, there.value]
  trace := by
    rw [Build.trace_bind_of_ok here.value, List.filterMap_append, here.trace, there.trace]
  quiet := .bind here.quiet fun _ _ => there.quiet

/-- A call that faults is noted, and that is all. -/
theorem tryCall (c : EngineCall) (result : Except Raised Unit) (note : String) :
    Releases [c] (Toolchain.tryCall c result note) := by
  cases result with
  | ok _ =>
      refine ⟨rfl, rfl, ?_⟩
      exact .bind (.emit trivial) fun _ _ => .pure _
  | error fault =>
      refine ⟨rfl, rfl, ?_⟩
      exact .bind (.emit trivial) fun _ _ => .log trivial

private theorem container (engine : ContainerEngine) (c : Container) :
    Releases [.stop c, .remove c] (releaseContainer engine c) :=
  bind (tryCall _ _ _) (tryCall _ _ _)

private theorem containers (engine : ContainerEngine) (cs : List Container) :
    Releases (releaseCalls cs) (cs.forM (releaseContainer engine)) := by
  induction cs with
  | nil => exact ⟨rfl, rfl, .pure _⟩
  | cons c rest ih => exact bind (container engine c) ih

end Releases

/-- What a build ends in whose project directory cannot be removed. -/
def stranded : Raised := .other "RecursionError" "maximum recursion depth exceeded"

/-- The calls come first, and the directory goes last. Where it was made and cannot be cleared, it
stays, and that is what giving back ends in. -/
theorem release_spec (t : Toolchain) (engine : ContainerEngine) (files : SourceSet)
    {held : Held} {opened : Bool}
    (project : held.project = if opened then some (t.project files) else none) :
    (t.release engine held).run.value =
        (if opened = true ∧ ¬t.Clears files then .error stranded else .ok ()) ∧
      ∃ cleanup, (t.release engine held).run.trace =
          cleanup ++ (if opened && decide (t.Clears files) then [.removeDirectory] else []) ∧
        cleanup.filterMap Event.call? = releaseCalls held.containers ∧
        ∀ event ∈ cleanup, IsCallOrLog event := by
  have given := Releases.containers engine held.containers
  have removal : (held.project.forM t.removeProject : Build Unit).run.value =
        (if opened = true ∧ ¬t.Clears files then .error stranded else .ok ()) ∧
      (held.project.forM t.removeProject : Build Unit).run.trace =
        if opened && decide (t.Clears files) then [.removeDirectory] else [] := by
    rw [project]
    cases opened with
    | false => exact ⟨rfl, rfl⟩
    | true =>
        simp only [↓reduceIte, Option.forM, removeProject, remove_project, Build.value_bind,
          Build.trace_bind, Build.value_ofExcept, Build.trace_ofExcept]
        by_cases clears : t.Clears files <;> simp [clears, Except.bind, stranded]
  unfold release
  constructor
  · rw [Build.value_bind, given.value, Except.bind, removal.1]
  · exact ⟨_, by rw [Build.trace_bind_of_ok given.value, removal.2], given.trace, given.quiet⟩

/-- Whatever stops a step, the caller is told of an unreachable engine: in the words of the fault
if it is one of the build's own. -/
theorem settle_error {α : Type} (fault : Raised) :
    ∃ message file, (settle (Build.ofExcept (.error fault)) : Build α).run.value =
        .error (.preview ⟨.remoteUnavailable, message, file⟩) ∧
      ∀ message' file', fault = .preview ⟨.remoteUnavailable, message', file'⟩ →
        message = message' ∧ file = file' := by
  simp only [settle, Build.value_bind, Build.value_attempt, Build.value_ofExcept, Except.bind]
  split
  · next same => cases same
  · next own =>
    cases own
    refine ⟨_, _, rfl, ?_⟩
    rintro _ _ ⟨⟩
    exact ⟨rfl, rfl⟩
  · next fault' foreign same =>
    cases same
    exact ⟨_, _, rfl, fun message file own => absurd own (foreign message file)⟩

/-- All that is left of that in the trace is what is told to the log. -/
theorem emits_settle {α : Type} (result : Except Raised α) :
    Build.Emits Event.IsLog (settle (Build.ofExcept result)) := by
  refine .bind (.attempt fun event member => absurd member List.not_mem_nil) fun result _ => ?_
  split
  · exact .pure _
  · exact .throw _
  · exact .bind (.log trivial) fun _ _ => .throw _

variable (t : Toolchain) (engine : ContainerEngine)

/-- What was done before a build gives back: its steps, and what is told of their fault. -/
def work (framework : Framework) (entry : String) (files : SourceSet) : List Event :=
  let ran := (t.steps engine framework entry files).run.run {}
  ran.trace ++ (settle (Build.ofExcept ran.value.1) : Build BuildResult).run.trace

/-- Giving back goes by the account, and the account is right wherever the steps stopped. -/
theorem accounted_work (framework : Framework) (entry : String) (files : SourceSet) :
    Accounted engine (t.project files) [.install, .build] {}
      ((t.steps engine framework entry files).run.run {}).value.2
      (t.work engine framework entry files) := by
  let ran := (t.steps engine framework entry files).run.run {}
  have account : Accounted engine (t.project files) [.install, .build] {} ran.value.2 ran.trace :=
    accounts_steps t engine framework entry files {}
  have logs : Accounted engine (t.project files) [] ran.value.2 ran.value.2
      (settle (Build.ofExcept ran.value.1) : Build BuildResult).run.trace :=
    .logs (emits_settle ran.value.1) ran.value.2
  exact account.trans logs

/-- A build comes to what its steps come to, unless it made a directory that cannot be cleared. -/
theorem value_build (framework : Framework) (entry : String) (files : SourceSet) :
    (t.build engine framework entry files).run.value =
      if (t.work engine framework entry files).any Event.opens = true ∧ ¬t.Clears files then
        .error stranded
      else (settle (Build.ofExcept
        ((t.steps engine framework entry files).run.run {}).value.1)).run.value := by
  have whole := accounted_work t engine framework entry files
  simp only [build, Build.value_bind, Build.value_lift, Build.value_attempt, Except.bind,
    (release_spec t engine files whole.project).1, Build.value_ofExcept]
  by_cases stays : (t.work engine framework entry files).any Event.opens = true ∧ ¬t.Clears files
  · rw [if_pos stays, if_pos stays]
  · rw [if_neg stays, if_neg stays]

/-- A build leaves behind what it did before giving back and what giving back does. -/
theorem trace_build (framework : Framework) (entry : String) (files : SourceSet) :
    (t.build engine framework entry files).run.trace = t.work engine framework entry files ++
      (t.release engine
        ((t.steps engine framework entry files).run.run {}).value.2).run.trace := by
  simp only [build, work, Build.trace_bind, Build.trace_lift, Build.value_lift, Build.trace_attempt,
    Build.value_attempt, Build.trace_ofExcept, List.append_assoc]
  split <;> simp only [List.append_nil]

private theorem givesAllBack_build (framework : Framework) (entry : String) (files : SourceSet) :
    GivesAllBack engine (t.Clears files) (t.build engine framework entry files).run.trace := by
  have whole := accounted_work t engine framework entry files
  obtain ⟨_, cleanup, split, calls, only⟩ := release_spec t engine files whole.project
  have containers := whole.containers
  rw [List.nil_append] at containers
  rw [containers] at calls
  refine ⟨t.work engine framework entry files, cleanup, [], ?_, whole.keeps,
    whole.starts.nodup (by decide), calls, only, by simp⟩
  rw [trace_build, split, List.append_nil, List.append_assoc]

/-- Compiling makes the project directory, and it cannot be cleared. -/
def Strands (t : Toolchain) (engine : ContainerEngine) (framework : Framework)
    (files : SourceSet) : Prop :=
  .openDirectory ∈ (t.compile engine framework files).run.trace ∧ ¬t.Clears files

/-- Without anything to build or a choice of files the answer is the same on every engine. -/
theorem compile_of_stopped {framework : Framework} {files : SourceSet}
    (stopped : framework = .vanilla ∨ ∃ e, Selection.resolve framework files = .error e) :
    ∃ reason, ∀ engine, t.compile engine framework files = pure (.failure reason) := by
  by_cases vanilla : framework = .vanilla
  · subst vanilla
    exact ⟨nothingToCompile, fun engine => rfl⟩
  · obtain ⟨e, refused⟩ := stopped.resolve_left vanilla
    refine ⟨e.toPreviewError.toFailure, fun engine => ?_⟩
    simp only [compile, vanilla, ↓reduceIte, refused]

section Resolved

variable {framework : Framework} {files : SourceSet} {s : Selection}

/-- Compiling leaves nothing behind but what its build does and what is told of it. -/
theorem exists_trace_compile (component : framework ≠ .vanilla)
    (resolved : Selection.resolve framework files = .ok s) :
    ∃ notes, (t.compile engine framework files).run.trace =
      (t.build engine framework (entryName s) files).run.trace ++ notes ∧
        ∀ event ∈ notes, event.IsLog := by
  simp only [compile, component, ↓reduceIte, resolved, Build.trace_bind, Build.trace_attempt,
    Build.value_attempt]
  refine ⟨_, rfl, ?_⟩
  cases (t.build engine framework (entryName s) files).run.value with
  | ok result => exact fun event member => absurd member List.not_mem_nil
  | error fault =>
      split
      · next same => cases same
      · intro event member
        obtain rfl := List.mem_singleton.1 member
        exact trivial
      · exact fun event member => absurd member List.not_mem_nil

/-- Only the work makes the project directory. -/
theorem strands_iff (component : framework ≠ .vanilla)
    (resolved : Selection.resolve framework files = .ok s) :
    t.Strands engine framework files ↔
      (t.work engine framework (entryName s) files).any Event.opens = true ∧ ¬t.Clears files := by
  have opened (event : Event) : event.opens = true ↔ event = .openDirectory := by
    cases event <;> simp [Event.opens]
  have whole := accounted_work t engine framework (entryName s) files
  obtain ⟨_, cleanup, released, -, only⟩ := release_spec t engine files whole.project
  obtain ⟨notes, trace, quiet⟩ := exists_trace_compile t engine component resolved
  have elsewhere : .openDirectory ∉ (t.release engine
      ((t.steps engine framework (entryName s) files).run.run {}).value.2).run.trace := by
    rw [released, List.mem_append]
    rintro (member | member)
    · exact only _ member
    · split at member
      · cases List.mem_singleton.1 member
      · cases member
  have told : .openDirectory ∉ notes := fun member => quiet _ member
  simp only [Strands, trace, trace_build, List.mem_append, elsewhere, told, or_false,
    List.any_eq_true, opened, exists_eq_right]

variable {t engine}

/-- The project directory is made as soon as the engine answers. -/
theorem strands_of_reached (component : framework ≠ .vanilla)
    (resolved : Selection.resolve framework files = .ok s) (connected : engine.connect = .ok ())
    (answered : engine.ping = .ok ()) (deep : ¬t.Clears files) :
    t.Strands engine framework files := by
  refine (strands_iff t engine component resolved).2 ⟨?_, deep⟩
  have made (held : Held) : Event.openDirectory ∈ ((t.prepare files).run.run held).trace :=
    Step.mem_trace_bind (List.mem_singleton.2 rfl)
  rw [work, List.any_append, Bool.or_eq_true]
  refine .inl (List.any_eq_true.2 ⟨.openDirectory, ?_, rfl⟩)
  unfold steps
  rw [connected, answered]
  rw [Step.run_bind_of_ok (a := ()) rfl,
    Step.run_bind_of_ok (a := ()) rfl]
  exact List.mem_append_right _ (List.mem_append_right _ (Step.mem_trace_bind (made {})))

/-- A directory that cannot be cleared is what compiling ends in. -/
theorem value_compile_of_strands (component : framework ≠ .vanilla)
    (resolved : Selection.resolve framework files = .ok s)
    (strands : t.Strands engine framework files) :
    (t.compile engine framework files).run.value = .error stranded := by
  have stays := (strands_iff t engine component resolved).1 strands
  simp only [compile, component, ↓reduceIte, resolved, Build.value_bind, Build.value_attempt,
    Except.bind, value_build, if_pos stays]
  rfl

/-- Where nothing stays behind, the result of the steps goes into the page. -/
theorem value_compile_of_result (component : framework ≠ .vanilla)
    (resolved : Selection.resolve framework files = .ok s)
    (clear : ¬t.Strands engine framework files) {result : BuildResult}
    (made : ((t.steps engine framework (entryName s) files).run.run {}).value.1 = .ok result) :
    (t.compile engine framework files).run.value = .ok (outcome s result) := by
  have gone := mt (strands_iff t engine component resolved).2 clear
  simp only [compile, component, ↓reduceIte, resolved, Build.value_bind, Build.value_attempt,
    Except.bind, value_build, if_neg gone, made]
  rfl

/-- Where nothing stays behind, a fault of the steps is a failure, in the words of the fault if it
is one of the build's own. -/
theorem value_compile_of_fault (component : framework ≠ .vanilla)
    (resolved : Selection.resolve framework files = .ok s)
    (clear : ¬t.Strands engine framework files) {fault : Raised}
    (stopped : ((t.steps engine framework (entryName s) files).run.run {}).value.1 =
      .error fault) :
    ∃ message file, (t.compile engine framework files).run.value =
        .ok (.failure ⟨message, file⟩) ∧
      ∀ message' file', fault = .preview ⟨.remoteUnavailable, message', file'⟩ →
        message = message' ∧ file = file' := by
  have gone := mt (strands_iff t engine component resolved).2 clear
  obtain ⟨message, file, told, words⟩ := settle_error (α := BuildResult) fault
  refine ⟨message, file, ?_, words⟩
  simp only [compile, component, ↓reduceIte, resolved, Build.value_bind, Build.value_attempt,
    Except.bind, value_build, if_neg gone, stopped, told]
  rfl

end Resolved

/-- Whatever compiling does, everything is given back. -/
theorem givesAllBack_compile (framework : Framework) (files : SourceSet) :
    GivesAllBack engine (t.Clears files) (t.compile engine framework files).run.trace := by
  by_cases stopped : framework = .vanilla ∨ ∃ e, Selection.resolve framework files = .error e
  · obtain ⟨reason, same⟩ := compile_of_stopped t stopped
    rw [same engine]
    exact .nil
  · obtain ⟨component, unrefused⟩ := not_or.1 stopped
    cases resolved : Selection.resolve framework files with
    | error e => exact absurd ⟨e, resolved⟩ unrefused
    | ok s =>
        obtain ⟨notes, trace, quiet⟩ := exists_trace_compile t engine component resolved
        rw [trace]
        exact (givesAllBack_build t engine framework (entryName s) files).then_logs quiet

/-- A toolchain with its project directory in the usual place. -/
def standard : Toolchain := ⟨"node", .whole 120, .whole 180, "/tmp/p", "", {}⟩

/-- A page and the script that it takes. -/
def paged : SourceSet :=
  .ofContents [("index.html", "<script src=\"a.jsx\"></script>"), ("a.jsx", "")]

/-- An engine whose containers start and fault with everything else. -/
def faulting : ContainerEngine where
  container _ :=
    let gone : Raised := .other "NotFound" "no such container"
    { wait := .error gone, logs := fun _ => .error gone, stop := .error gone
      remove := .error gone }

end Toolchain

end WebPreview
