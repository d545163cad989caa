import WebPreview.Event
import WebPreview.Proofs.Except

/-! # Values and events of builds

A build comes to a value or a fault, and it leaves events behind. Both are read
off its run: the value of a sequence is the value of its second step after the
first (`WebPreview.Build.value_bind`), a step that is attempted has its fault for
a value (`WebPreview.Build.value_attempt`), and a property of all events holds of
a sequence as soon as it holds of its steps (`WebPreview.Build.Emits.bind`).
-/

namespace WebPreview

namespace Event

/-- The event is a log record. -/
def IsLog : Event → Prop
  | .log _ => True
  | _ => False

/-- The call to the container engine, if the event is one. -/
def call? : Event → Option EngineCall
  | .engine call => some call
  | _ => none

end Event

namespace Build

variable {α β : Type}

/-- A step that does nothing has its value. -/
@[simp] theorem value_pure (a : α) : (pure a : Build α).run.value = .ok a := rfl

/-- A step that raises has the fault for a value. -/
@[simp] theorem value_throw (fault : Raised) :
    (throw fault : Build α).run.value = .error fault := rfl

/-- The value of a sequence is that of its second step after the first. -/
@[simp] theorem value_bind (step : Build α) (next : α → Build β) :
    (step >>= next).run.value = step.run.value.bind fun a => (next a).run.value := by
  rw [ExceptT.run_bind, Traced.value_bind]
  cases step.run.value <;> rfl

@[simp] private theorem value_map (step : Build α) (f : α → β) :
    (f <$> step).run.value = step.run.value.map f := by
  rw [map_eq_pure_bind, value_bind]
  cases step.run.value <;> rfl

/-- An event ends well. -/
@[simp] theorem value_emit (event : Event) : (emit event).run.value = .ok () := rfl

/-- A log record ends well. -/
@[simp] theorem value_log (level : Level) (logger message : String) :
    (log level logger message).run.value = .ok () := rfl

/-- A result that is taken over keeps its value. -/
@[simp] theorem value_ofExcept (result : Except Raised α) :
    (ofExcept result).run.value = result := rfl

/-- A traced value that is taken over keeps its value. -/
@[simp] theorem value_lift (ran : Traced Event α) :
    (ExceptT.lift ran : Build α).run.value = .ok ran.value := rfl

/-- An attempt ends well, with how the step ended for a value. -/
@[simp] theorem value_attempt (step : Build α) :
    (attempt step).run.value = .ok step.run.value := rfl

/-- A step that does nothing leaves no event. -/
@[simp] theorem trace_pure (a : α) : (pure a : Build α).run.trace = [] := rfl

@[simp] private theorem trace_throw (fault : Raised) : (throw fault : Build α).run.trace = [] := rfl

/-- The second step of a sequence adds its events only if the first one ends well. -/
theorem trace_bind (step : Build α) (next : α → Build β) :
    (step >>= next).run.trace = step.run.trace ++
      match step.run.value with
      | .ok a => (next a).run.trace
      | .error _ => [] := by
  rw [ExceptT.run_bind, Traced.trace_bind]
  cases step.run.value <;> rfl

/-- A sequence whose first step ends well leaves the events of both steps, in order. -/
theorem trace_bind_of_ok {step : Build α} {a : α} (value : step.run.value = .ok a)
    (next : α → Build β) :
    (step >>= next).run.trace = step.run.trace ++ (next a).run.trace := by
  rw [trace_bind, value]

/-- An event leaves itself behind. -/
@[simp] theorem trace_emit (event : Event) : (emit event).run.trace = [event] := rfl

@[simp] private theorem trace_log (level : Level) (logger message : String) :
    (log level logger message).run.trace = [.log ⟨level, logger, message⟩] := rfl

/-- A result that is taken over leaves no event. -/
@[simp] theorem trace_ofExcept (result : Except Raised α) : (ofExcept result).run.trace = [] := rfl

/-- A traced value that is taken over keeps its events. -/
@[simp] theorem trace_lift (ran : Traced Event α) :
    (ExceptT.lift ran : Build α).run.trace = ran.trace := by
  change ran.trace ++ [] = ran.trace
  exact List.append_nil _

/-- An attempt leaves the events of the step, however it ended. -/
@[simp] theorem trace_attempt (step : Build α) : (attempt step).run.trace = step.run.trace :=
  trace_lift step.run

/-- Every event of the step is allowed. -/
def Emits (allowed : Event → Prop) (step : Build α) : Prop :=
  ∀ event ∈ step.run.trace, allowed event

namespace Emits

variable {allowed : Event → Prop}

/-- A step that does nothing emits nothing that is not allowed. -/
theorem pure (a : α) : Emits allowed (Pure.pure a : Build α) := by
  intro event member
  exact absurd member List.not_mem_nil

/-- A step that raises emits nothing that is not allowed. -/
theorem throw (fault : Raised) : Emits allowed (MonadExcept.throw fault : Build α) := by
  intro event member
  exact absurd member List.not_mem_nil

/-- The events of a sequence are allowed if those of its steps are. -/
theorem bind {step : Build α} {next : α → Build β} (first : Emits allowed step)
    (second : ∀ a, step.run.value = .ok a → Emits allowed (next a)) :
    Emits allowed (step >>= next) := by
  intro event member
  rw [trace_bind, List.mem_append] at member
  rcases member with member | member
  · exact first event member
  · cases value : step.run.value with
    | ok a =>
        rw [value] at member
        exact second a value event member
    | error fault =>
        rw [value] at member
        exact absurd member List.not_mem_nil

/-- An allowed event is all that its own step emits. -/
theorem emit {event : Event} (here : allowed event) : Emits allowed (Build.emit event) := by
  intro other member
  rw [trace_emit, List.mem_singleton] at member
  exact member ▸ here

/-- An allowed log record is all that its own step emits. -/
theorem log {level : Level} {logger message : String}
    (here : allowed (.log ⟨level, logger, message⟩)) :
    Emits allowed (Build.log level logger message) :=
  emit here

/-- An attempt emits what its step emits. -/
theorem attempt {step : Build α} (here : Emits allowed step) :
    Emits allowed (Build.attempt step) := by
  intro event member
  rw [trace_attempt] at member
  exact here event member

end Emits

end Build

end WebPreview
