import WebPreview.Toolchain.BuildResult
import WebPreview.Toolchain.Command
import WebPreview.Toolchain.Engine

/-! # A build in containers

A build takes two containers, one after the other: the first installs the compilers and may reach
the network, the second bundles the project, reads it only, and reaches nothing. What a build
holds, the project directory and the containers that were started, is given back at the end,
whatever the build came to. A fault of the engine in giving back is noted and nothing else. The
directory is removed last; where it cannot be, that is what the build ends in.
-/

namespace WebPreview

/-- How many calls there is room for inside one another. -/
structure Depths where
  /-- To make directories. -/
  make : Nat := usualRoom
  /-- To remove directories. -/
  remove : Nat := usualRoom
  /-- To show a value in a message. -/
  print : Nat := usualRoom

/-- A toolchain, and how long it may take. -/
structure Toolchain where
  image : String
  buildLimit : Seconds
  installLimit : Seconds
  /-- Where the project directory is made. -/
  directory : String
  /-- The text of the build script. -/
  script : String := ""
  depths : Depths := {}

namespace Toolchain

/-- The logger of the toolchain. -/
def logger : String := "previewkit.sandbox.toolchain"

/-- How much of an error output is told. -/
def shownErrors : Nat := 500

/-- How much of an unexpected fault is told. -/
def shownFault : Nat := 200

/-- What a build holds and has to give back. -/
structure Held where
  /-- The files that the project directory is among, if it was made. -/
  project : Option FileSystem := none
  /-- The containers that were started, in order. -/
  containers : List Container := []

/-- A step of a build that keeps account of what is held. -/
abbrev Step (α : Type) := ExceptT Raised (StateT Held (Traced Event)) α

namespace Step

/-- Leaves an event behind. -/
def emit (event : Event) : Step Unit := ExceptT.lift (StateT.lift (Traced.emit event))

/-- The result of something outside. -/
def ofExcept {α : Type} (result : Except Raised α) : Step α := ExceptT.mk (pure result)

/-- Calls the engine. -/
def call {α : Type} (c : EngineCall) (result : Except Raised α) : Step α := do
  emit (.engine c)
  ofExcept result

/-- Changes the account. -/
def hold (change : Held → Held) : Step Unit := ExceptT.lift (modify change)

/-- Stops with an error that the caller is told as it is. -/
def unavailable {α : Type} (message : String) : Step α :=
  throw (.preview ⟨.remoteUnavailable, message, unknownFile⟩)

end Step

/-- Makes the project directory and writes the files into it. What was written before a fault is
held, too. -/
def prepare (t : Toolchain) (files : SourceSet) : Step FileSystem := do
  Step.emit .openDirectory
  let (result, fs) := Project.writeFresh t.depths.make t.directory t.script files
  Step.hold fun held => { held with project := some fs }
  Step.ofExcept result
  return fs

/-- Fetches the image if it is not there. -/
def ensureImage (t : Toolchain) (engine : ContainerEngine) : Step Unit := do
  Step.emit (.engine (.imageGet t.image))
  match engine.imageGet with
  | .error (.imageNotFound _) => Step.call (.imagePull t.image) engine.imagePull
  | result => Step.ofExcept result

/-- Starts a container and waits for it to end. -/
def runContainer (t : Toolchain) (engine : ContainerEngine) (fs : FileSystem) (c : Container)
    (spec : ContainerSpec) (limit : Seconds) : Step ExitStatus := do
  let listing := (Project.contents t.directory fs).map Prod.fst
  Step.call (.run c spec listing) (engine.container c).run
  Step.hold fun held => { held with containers := held.containers ++ [c] }
  let result ← Step.call (.wait c limit) (engine.container c).wait
  Step.ofExcept (ExitStatus.ofWait result)

/-- What a container printed, with a mark for every byte sequence that is no text. -/
def output (engine : ContainerEngine) (c : Container) (errors : Bool) : Step String := do
  let bytes ← Step.call (.logs c errors) ((engine.container c).logs errors)
  return Utf8.decodeLossy bytes

/-- What the first container is started with. -/
def installSpec (t : Toolchain) : ContainerSpec :=
  ⟨t.image, shellCommand installCommand, true, true⟩

/-- What the second container is started with. -/
def buildSpec (t : Toolchain) (framework : Framework) (entry : String) : ContainerSpec :=
  ⟨t.image, shellCommand (runCommand framework entry), false, false⟩

/-- Installs the compilers. -/
def install (t : Toolchain) (engine : ContainerEngine) (fs : FileSystem) : Step Unit := do
  let status ← runContainer t engine fs .install t.installSpec t.installLimit
  if !status.isZero then
    let errors ← output engine .install true
    Step.unavailable ("Toolchain install failed: " ++ Text.takeLast shownErrors errors)

/-- Bundles the project. A run that ends badly counts only if it left no result. -/
def bundle (t : Toolchain) (engine : ContainerEngine) (fs : FileSystem) (framework : Framework)
    (entry : String) : Step BuildResult := do
  let status ← runContainer t engine fs .build (t.buildSpec framework entry) t.buildLimit
  let printed ← output engine .build false
  match BuildResult.ofOutput printed with
  | .ok result => return result
  | .error fault =>
    if status.isZero then Step.unavailable fault.message
    else
      let errors ← output engine .build true
      let shown ← Step.ofExcept (status.text t.depths.print)
      Step.unavailable ("Toolchain build crashed (exit " ++ shown ++ "): "
        ++ Text.takeLast shownErrors errors)

/-- The steps of a build, in order. -/
def steps (t : Toolchain) (engine : ContainerEngine) (framework : Framework) (entry : String)
    (files : SourceSet) : Step BuildResult := do
  Step.ofExcept engine.connect
  Step.call .ping engine.ping
  let fs ← t.prepare files
  t.ensureImage engine
  t.install engine fs
  t.bundle engine fs framework entry

/-- What the caller is told of a fault that is none of the build's own. -/
def explain (message : String) : String :=
  let lowered := Text.lower message
  if Text.occurs "timed out" lowered || Text.occurs "timeout" lowered then
    "Toolchain build timed out"
  else if Text.occurs "connection refused" lowered || Text.occurs "docker daemon" lowered then
    "Docker is not running"
  else "Toolchain build failed: " ++ Text.takeFirst shownFault message

/-- Runs a step and turns any fault into one that the caller is told. A fault that is none of the
build's own is written to the log. -/
def settle {α : Type} (step : Build α) : Build α := do
  match ← Build.attempt step with
  | .ok a => return a
  | .error (.preview ⟨.remoteUnavailable, message, file⟩) =>
    throw (.preview ⟨.remoteUnavailable, message, file⟩)
  | .error fault =>
    Build.log .error logger "Toolchain build failed"
    throw (.preview ⟨.remoteUnavailable, explain fault.message, unknownFile⟩)

/-- Calls the engine and notes a fault. -/
def tryCall (c : EngineCall) (result : Except Raised Unit) (note : String) : Build Unit := do
  Build.emit (.engine c)
  match ← Build.attempt (Build.ofExcept result) with
  | .ok _ => return
  | .error _ => Build.log .debug logger note

/-- Stops a container and removes it. -/
def releaseContainer (engine : ContainerEngine) (c : Container) : Build Unit := do
  tryCall (.stop c) (engine.container c).stop "Container already stopped"
  tryCall (.remove c) (engine.container c).remove "Container already removed"

/-- Removes the project directory. -/
def removeProject (t : Toolchain) (fs : FileSystem) : Build Unit := do
  Build.ofExcept (Project.remove t.depths.remove t.directory fs)
  Build.emit .removeDirectory

/-- Gives back what is held. -/
def release (t : Toolchain) (engine : ContainerEngine) (held : Held) : Build Unit := do
  held.containers.forM (releaseContainer engine)
  held.project.forM t.removeProject

/-- A build from beginning to end. -/
def build (t : Toolchain) (engine : ContainerEngine) (framework : Framework) (entry : String)
    (files : SourceSet) : Build BuildResult := do
  let (result, held) ← ExceptT.lift ((t.steps engine framework entry files).run.run {})
  let result ← Build.attempt (settle (Build.ofExcept result))
  t.release engine held
  Build.ofExcept result

end Toolchain

end WebPreview
