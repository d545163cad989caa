import WebPreview.Json.Shown
import WebPreview.PreviewError
import WebPreview.Text.Casing
import WebPreview.Text.Classes

/-! # Frameworks

The frameworks a preview can be built for. A framework is named by its identifier, in any case
and with blanks around it.
-/

namespace WebPreview

/-- A framework that previews are built for. -/
inductive Framework where
  | vanilla
  | react
  | vue
  | svelte
deriving DecidableEq, Repr, Inhabited

namespace Framework

/-- Every framework, in the order in which they are offered. -/
def all : List Framework := [vanilla, react, vue, svelte]

/-- The identifier of a framework. -/
def id : Framework → String
  | vanilla => "vanilla"
  | react => "react"
  | vue => "vue"
  | svelte => "svelte"

/-- The list of all frameworks has every one. -/
theorem mem_all (f : Framework) : f ∈ all := by cases f <;> simp [all]

/-- The framework with exactly this identifier. -/
def ofId? (id : String) : Option Framework := all.find? (·.id == id)

/-- The identifier of a framework finds the framework again. -/
theorem ofId?_id (f : Framework) : ofId? f.id = some f := by cases f <;> decide

/-- The framework that a text names. -/
def parse (name : String) : Except PreviewError Framework :=
  match ofId? (Text.lower (Text.trim name)) with
  | some f => .ok f
  | none => .error (.unsupported name)

/-- The framework that a value names, read as it stands in messages. -/
def ofValue (room : Nat) (v : Json) : Except Raised Framework := do
  let name ← v.text room
  (parse name).mapError .preview

end Framework

end WebPreview
