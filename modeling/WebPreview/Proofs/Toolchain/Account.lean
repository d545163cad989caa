import WebPreview.Proofs.Build.Laws
import WebPreview.Proofs.Toolchain.Depth

/-! # What a build holds

The steps of a build in containers keep account of what they hold. The account is right at every
point where a step can stop: it lists exactly the containers that the engine started, in order, and
has the project directory as it was written, if it was made (`WebPreview.Toolchain.Accounts`).
Sequencing keeps this (`WebPreview.Toolchain.Accounts.bind`), so it holds of all the steps together
(`WebPreview.Toolchain.accounts_steps`).
-/

namespace WebPreview

namespace Event

/-- The container that the event starts, if it is a start that the engine does not
refuse. -/
def starts? (engine : ContainerEngine) : Event → Option Container
  | .engine (.run c _ _) =>
    match (engine.container c).run with
    | .ok _ => some c
    | .error _ => none
  | _ => none

/-- Whether the event makes the project directory. -/
def opens : Event → Bool
  | .openDirectory => true
  | _ => false

/-- The event gives something back: it stops or removes a container, or removes the
project directory. -/
def GivesBack : Event → Prop
  | .engine (.stop _) | .engine (.remove _) | .removeDirectory => True
  | _ => False

end Event

namespace Toolchain

/-- The containers that were started, in order. -/
def started (engine : ContainerEngine) (trace : List Event) : List Container :=
  trace.filterMap (Event.starts? engine)

private theorem started_append (engine : ContainerEngine) (first second : List Event) :
    started engine (first ++ second) = started engine first ++ started engine second :=
  List.filterMap_append

namespace Step

variable {α β : Type}

/-- A step that ends well is followed by the next one, with what is held then. -/
theorem run_bind_of_ok {step : Step α} {next : α → Step β} {held held' : Held} {a : α}
    (value : (step.run.run held).value = (.ok a, held')) :
    ((step >>= next).run.run held) =
      ⟨((next a).run.run held').value,
        (step.run.run held).trace ++ ((next a).run.run held').trace⟩ := by
  refine Traced.ext ?_ ?_
  · rw [ExceptT.run_bind, StateT.run_bind, Traced.value_bind, value]
  · rw [ExceptT.run_bind, StateT.run_bind, Traced.trace_bind, value]

/-- A step that stops ends the sequence. -/
theorem run_bind_of_error {step : Step α} {next : α → Step β} {held held' : Held} {fault : Raised}
    (value : (step.run.run held).value = (.error fault, held')) :
    ((step >>= next).run.run held) = ⟨(.error fault, held'), (step.run.run held).trace⟩ := by
  refine Traced.ext ?_ ?_
  · rw [ExceptT.run_bind, StateT.run_bind, Traced.value_bind, value]
    rfl
  · rw [ExceptT.run_bind, StateT.run_bind, Traced.trace_bind, value]
    exact List.append_nil _

/-- An event of the first step is one of the sequence. -/
theorem mem_trace_bind {step : Step α} {next : α → Step β} {held : Held} {event : Event}
    (here : event ∈ (step.run.run held).trace) :
    event ∈ ((step >>= next).run.run held).trace := by
  rcases value : (step.run.run held).value with ⟨_ | _, held'⟩
  · rw [run_bind_of_error value]
    exact here
  · rw [run_bind_of_ok value]
    exact List.mem_append_left _ here

end Step

/-- A stretch of a build that starts with one account and ends with another: the account has grown
by what the events started, has the project if they made it, nothing was given back, and no more
than the allowed containers were started. -/
structure Accounted (engine : ContainerEngine) (project : FileSystem) (allowed : List Container)
    (held held' : Held) (trace : List Event) : Prop where
  containers : held'.containers = held.containers ++ started engine trace
  project : held'.project = if trace.any Event.opens then some project else held.project
  keeps : ∀ event ∈ trace, ¬event.GivesBack
  starts : (started engine trace).Sublist allowed

namespace Accounted

variable {engine : ContainerEngine} {project : FileSystem} {allowed first second : List Container}
  {held middle held' : Held} {trace trace' : List Event}

private theorem refl (engine : ContainerEngine) (project : FileSystem) (held : Held) :
    Accounted engine project [] held held [] where
  containers := (List.append_nil _).symm
  project := rfl
  keeps _ member := absurd member List.not_mem_nil
  starts := List.Sublist.refl _

/-- Two accounts, one after the other, are an account of both. -/
theorem trans (here : Accounted engine project first held middle trace)
    (there : Accounted engine project second middle held' trace') :
    Accounted engine project (first ++ second) held held' (trace ++ trace') where
  containers := by
    rw [there.containers, here.containers, started_append, List.append_assoc]
  project := by
    rw [there.project, here.project, List.any_append]
    cases trace.any Event.opens <;> cases trace'.any Event.opens <;> rfl
  keeps event member := by
    rw [List.mem_append] at member
    exact member.elim (here.keeps event) (there.keeps event)
  starts := by
    rw [started_append]
    exact here.starts.append there.starts

private theorem widen (here : Accounted engine project first held held' trace)
    (fewer : first.Sublist second) : Accounted engine project second held held' trace :=
  { here with starts := here.starts.trans fewer }

/-- An event that starts nothing, makes nothing and gives nothing back changes no
account. -/
theorem event {event : Event} (idle : event.starts? engine = none) (unopened : event.opens = false)
    (kept : ¬event.GivesBack) (held : Held) : Accounted engine project [] held held [event] where
  containers := by
    simp only [started, List.filterMap_cons, idle, List.filterMap_nil, List.append_nil]
  project := by
    simp only [List.any_cons, unopened, List.any_nil, Bool.or_false, Bool.false_eq_true, if_false]
  keeps other member := by
    obtain rfl := List.mem_singleton.1 member
    exact kept
  starts := by
    simp only [started, List.filterMap_cons, idle, List.filterMap_nil, List.Sublist.refl]

/-- Writing to the log changes no account. -/
theorem logs {notes : List Event} (quiet : ∀ event ∈ notes, event.IsLog) (held : Held) :
    Accounted engine project [] held held notes := by
  induction notes with
  | nil => exact refl engine project held
  | cons note rest ih =>
      have others := ih fun other member => quiet other (List.mem_cons_of_mem _ member)
      have one := quiet note List.mem_cons_self
      cases note with
      | log record => exact (event rfl rfl id held).trans others
      | _ => exact one.elim

/-- A container that the engine starts is put down in the account. -/
theorem start {c : Container} (accepted : (engine.container c).run = .ok ()) (spec : ContainerSpec)
    (listing : List String) (held : Held) :
    Accounted engine project [c] held { held with containers := held.containers ++ [c] }
      [.engine (.run c spec listing)] := by
  have one : started engine [.engine (.run c spec listing)] = [c] := by
    simp only [started, List.filterMap_cons, Event.starts?, accepted, List.filterMap_nil]
  constructor
  · rw [one]
  · rfl
  · intro event member
    obtain rfl := List.mem_singleton.1 member
    exact id
  · exact one.symm ▸ List.Sublist.refl [c]

end Accounted

/-- The step keeps account, whatever was held before. -/
def Accounts {α : Type} (engine : ContainerEngine) (project : FileSystem)
    (allowed : List Container) (step : Step α) : Prop :=
  ∀ held,
    Accounted engine project allowed held (step.run.run held).value.2 (step.run.run held).trace

namespace Accounts

variable {α β : Type} {engine : ContainerEngine} {project : FileSystem}
  {first second : List Container}

private theorem pure (a : α) :
    Accounts engine project [] (Pure.pure a : Step α) := .refl engine project

private theorem ofExcept (result : Except Raised α) :
    Accounts engine project [] (Step.ofExcept result) :=
  .refl engine project

private theorem unavailable (message : String) :
    Accounts engine project [] (Step.unavailable message : Step α) :=
  .refl engine project

/-- A sequence accounts for what its steps account for. -/
theorem bind {step : Step α} {next : α → Step β} (here : Accounts engine project first step)
    (there : ∀ a, Accounts engine project second (next a)) :
    Accounts engine project (first ++ second) (step >>= next) := by
  intro held
  have mine := here held
  rcases value : (step.run.run held).value with ⟨result, middle⟩
  rw [value] at mine
  cases result with
  | ok a =>
      rw [Step.run_bind_of_ok value]
      exact mine.trans (there a middle)
  | error fault =>
      rw [Step.run_bind_of_error value]
      exact mine.widen (List.sublist_append_left first second)

private theorem emit {event : Event} (idle : event.starts? engine = none)
    (unopened : event.opens = false)
    (kept : ¬event.GivesBack) : Accounts engine project [] (Step.emit event) :=
  .event idle unopened kept

/-- A call that starts nothing and gives nothing back. -/
theorem call {c : EngineCall} (idle : (Event.engine c).starts? engine = none)
    (kept : ¬(Event.engine c).GivesBack) (result : Except Raised α) :
    Accounts engine project [] (Step.call c result) :=
  bind (emit idle rfl kept) fun _ => ofExcept result

end Accounts

variable (t : Toolchain) (engine : ContainerEngine) (project : FileSystem)

private theorem accounts_prepare (files : SourceSet) :
    Accounts engine (t.project files) [] (t.prepare files) := by
  intro held
  have opened (fs : FileSystem) :
      Accounted engine fs [] held { held with project := some fs } [.openDirectory] := by
    refine ⟨(List.append_nil _).symm, rfl, ?_, List.Sublist.refl _⟩
    intro event member
    obtain rfl := List.mem_singleton.1 member
    exact id
  unfold prepare Toolchain.project
  rcases Project.writeFresh t.depths.make t.directory t.script files with ⟨result, fs⟩
  cases result <;> exact opened fs

private theorem accounts_ensureImage : Accounts engine project [] (t.ensureImage engine) := by
  refine .bind (.emit rfl rfl id) fun _ => ?_
  split
  · exact .call rfl id _
  · exact .ofExcept _

private theorem accounts_runContainer (fs : FileSystem) (c : Container) (spec : ContainerSpec)
    (limit : Seconds) : Accounts engine project [c] (t.runContainer engine fs c spec limit) := by
  have waits : Accounts engine project []
      (Step.call (.wait c limit) (engine.container c).wait >>= fun result =>
        Step.ofExcept (ExitStatus.ofWait result)) :=
    .bind (.call rfl id _) fun result => .ofExcept _
  intro held
  unfold runContainer
  cases accepted : (engine.container c).run with
  | ok _ => exact (Accounted.start accepted spec _ held).trans (waits _)
  | error fault =>
      have refused : Accounted engine project [] held held
          [.engine (.run c spec ((Project.contents t.directory fs).map Prod.fst))] :=
        .event (by simp only [Event.starts?, accepted]) rfl id held
      exact refused.widen (List.nil_sublist _)

private theorem accounts_output (c : Container) (errors : Bool) :
    Accounts engine project [] (output engine c errors) :=
  .bind (.call rfl id _) fun _ => .pure _

private theorem accounts_install (fs : FileSystem) :
    Accounts engine project [.install] (t.install engine fs) := by
  refine .bind (accounts_runContainer t engine project fs .install _ _) fun status => ?_
  split
  · exact .bind (accounts_output engine project .install true) fun _ => .unavailable _
  · exact .pure _

private theorem accounts_bundle (fs : FileSystem) (framework : Framework) (entry : String) :
    Accounts engine project [.build] (t.bundle engine fs framework entry) := by
  refine .bind (accounts_runContainer t engine project fs .build _ _) fun status => ?_
  refine .bind (accounts_output engine project .build false) fun printed => ?_
  split
  · exact .pure _
  · split
    · exact .unavailable _
    · refine .bind (accounts_output engine project .build true) fun _ => ?_
      exact .bind (.ofExcept _) fun _ => .unavailable _

/-- **The steps keep account.** Wherever they stop, the account lists the containers that were
started, which are the two at most, and has the project directory as far as it was written, if it
was made. -/
theorem accounts_steps (framework : Framework) (entry : String) (files : SourceSet) :
    Accounts engine (t.project files) [.install, .build]
      (t.steps engine framework entry files) := by
  refine .bind (.ofExcept _) fun _ => .bind (.call rfl id _) fun _ => ?_
  refine .bind (accounts_prepare t engine files) fun fs => ?_
  refine .bind (accounts_ensureImage t engine _) fun _ => ?_
  exact .bind (accounts_install t engine _ fs) fun _ =>
    accounts_bundle t engine _ fs framework entry

end Toolchain

end WebPreview
