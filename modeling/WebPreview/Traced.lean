/-! # Values with a trace

A value together with the events that came about on the way to it, in their order. Doing one step
after another appends the traces, so that the trace of a run tells what it did and when.
-/

namespace WebPreview

/-- A value and the events on the way to it. -/
structure Traced (ε α : Type) where
  value : α
  trace : List ε

namespace Traced

variable {ε α β : Type}

instance : Monad (Traced ε) where
  pure a := ⟨a, []⟩
  bind x f := ⟨(f x.value).value, x.trace ++ (f x.value).trace⟩

/-- A value on its own is itself. -/
@[simp] theorem value_pure (a : α) : (pure a : Traced ε α).value = a := rfl

/-- A value on its own leaves no event. -/
@[simp] theorem trace_pure (a : α) : (pure a : Traced ε α).trace = [] := rfl

/-- The value of a sequence is that of its second step. -/
@[simp] theorem value_bind (x : Traced ε α) (f : α → Traced ε β) :
    (x >>= f).value = (f x.value).value := rfl

/-- The events of a sequence are those of its steps, in order. -/
@[simp] theorem trace_bind (x : Traced ε α) (f : α → Traced ε β) :
    (x >>= f).trace = x.trace ++ (f x.value).trace := rfl

/-- Two traced values with the same value and events are the same. -/
theorem ext {x y : Traced ε α} (value : x.value = y.value) (trace : x.trace = y.trace) :
    x = y := by
  cases x; cases y; cases value; cases trace; rfl

instance : LawfulMonad (Traced ε) := .mk' _
  (fun _ => ext rfl (List.append_nil _))
  (fun _ _ => ext rfl rfl)
  (fun _ _ _ => ext rfl (List.append_assoc _ _ _))

/-- One event. -/
def emit (event : ε) : Traced ε Unit := ⟨(), [event]⟩

/-- An event leaves itself behind. -/
@[simp] theorem trace_emit (event : ε) : (emit event).trace = [event] := rfl

end Traced

end WebPreview
