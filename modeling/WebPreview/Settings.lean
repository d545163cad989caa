import WebPreview.Config
import WebPreview.DotEnv

/-! # Settings of a session

The environment, the settings file beside the project, and the configuration that was read last.
Reading a configuration loads the file into the environment for good. A configuration that could
be used is kept until it is forgotten; each one that is kept has a number of its own.
-/

namespace WebPreview

/-- The environment, the settings file and the configuration that is kept. -/
structure Settings where
  env : Environment
  dotEnv : Option String := none
  /-- Loads the text of a settings file into an environment, as far as it can be loaded. -/
  loader : String → Environment → Environment × Except VariableFault Unit := DotEnv.load
  kept : Option (Nat × Config) := none
  /-- The number of the next configuration. -/
  next : Nat := 0

namespace Settings

/-- Loads the settings file into the environment, as far as it can be loaded. -/
def loadFile (s : Settings) : Settings × Except VariableFault Unit :=
  match s.dotEnv with
  | some text =>
    let (env, result) := s.loader text s.env
    ({ s with env }, result)
  | none => (s, .ok ())

/-- Reads a configuration anew. -/
def fresh (s : Settings) : Settings × Except ConfigError Config :=
  let (s, loaded) := s.loadFile
  (s, (loaded.mapError ConfigError.unsettable).bind fun _ => Config.ofEnvironment s.env)

/-- The configuration that is kept, with its number, read anew if there is none. -/
def config (s : Settings) : Settings × Except ConfigError (Nat × Config) :=
  match s.kept with
  | some found => (s, .ok found)
  | none =>
    let (s, result) := s.fresh
    match result with
    | .ok config =>
      ({ s with kept := some (s.next, config), next := s.next + 1 }, .ok (s.next, config))
    | .error e => (s, .error e)

/-- Forgets the configuration that is kept. -/
def forget (s : Settings) : Settings := { s with kept := none }

/-- Sets a variable. -/
def set (s : Settings) (name value : String) : Except VariableFault Settings :=
  (Environment.set s.env name value).map fun env => { s with env }

/-- Takes a variable away. -/
def unset (s : Settings) (name : String) : Settings := { s with env := s.env.erase name }

end Settings

end WebPreview
