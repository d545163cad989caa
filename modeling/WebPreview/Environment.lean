import WebPreview.Keyed

/-! # Environments

The variables that a process finds around it. A text in the environment ends at a null character
and a name ends at an equals sign, so a variable whose texts hold them cannot be set.
-/

namespace WebPreview

/-- The variables of an environment. -/
abbrev Environment := Keyed String

/-- Why a variable cannot be set. -/
inductive VariableFault where
  /-- The name or the value holds the character that ends a text in the environment. -/
  | endMark
  | equalsInName
  | noName
deriving DecidableEq, Repr

namespace VariableFault

/-- What is wrong, in words. -/
def message : VariableFault → String
  | endMark => "embedded null byte"
  | equalsInName => "illegal environment variable name"
  | noName => "[Errno 22] Invalid argument"

end VariableFault

/-- Sets a variable. -/
def Environment.set (env : Environment) (name value : String) :
    Except VariableFault Environment :=
  if name.toList.contains '\x00' || value.toList.contains '\x00' then .error .endMark
  else if name.toList.contains '=' then .error .equalsInName
  else if name = "" then .error .noName
  else .ok (env.put name value)

end WebPreview
