import WebPreview.Framework
import WebPreview.Json.Basic
import WebPreview.Logging
import WebPreview.Outcome
import WebPreview.Seconds
import WebPreview.SourceFile
import WebPreview.Traced

/-! # Events

What a build does that can be seen from outside: it writes log records, consults a compiler,
calls the container engine and sends requests. A build is a step that leaves such events behind
and may be stopped by a fault.
-/

namespace WebPreview

/-- The two containers of a toolchain build. -/
inductive Container where
  | install
  | build
deriving DecidableEq, Repr

/-- What a container is started with. -/
structure ContainerSpec where
  image : String
  command : List String
  /-- Whether the container may write to the project. -/
  writable : Bool
  /-- Whether the container reaches the network. -/
  networked : Bool
deriving DecidableEq, Repr

namespace ContainerSpec

/-- Where the project stands in a container. -/
def workingDir : String := "/app"

/-- How much memory a container may use. -/
def memoryLimit : String := "1g"

/-- The time slice in which processor time is counted. -/
def cpuPeriod : Nat := 100000

/-- How much of a time slice a container may use. -/
def cpuQuota : Nat := 50000

/-- How the project is mounted. -/
def mountMode (spec : ContainerSpec) : String := if spec.writable then "rw" else "ro"

end ContainerSpec

/-- A call to the container engine. -/
inductive EngineCall where
  | ping
  | imageGet (image : String)
  | imagePull (image : String)
  /-- Starts a container while the project directory holds the listed files. -/
  | run (container : Container) (spec : ContainerSpec) (listing : List String)
  | wait (container : Container) (limit : Seconds)
  /-- Fetches the standard output, or the error output. -/
  | logs (container : Container) (errors : Bool)
  | stop (container : Container)
  | remove (container : Container)

/-- A request to a compile service. -/
structure HttpCall where
  url : String
  payload : Json

/-- What can be seen of a build from outside. -/
inductive Event where
  | log (record : LogRecord)
  | consult (framework : Framework) (files : SourceSet)
  | engine (call : EngineCall)
  /-- The project directory is made. -/
  | openDirectory
  /-- The project directory is removed with everything in it. -/
  | removeDirectory
  | request (call : HttpCall)

/-- A step that leaves events behind and may be stopped by a fault. -/
abbrev Build := ExceptT Raised (Traced Event)

namespace Build

/-- Leaves an event behind. -/
def emit (event : Event) : Build Unit := ExceptT.lift (Traced.emit event)

/-- Writes a log record. -/
def log (level : Level) (logger message : String) : Build Unit :=
  emit (.log ⟨level, logger, message⟩)

/-- The value or the fault, as a step that nothing stops. -/
def attempt {α : Type} (step : Build α) : Build (Except Raised α) := ExceptT.lift step.run

/-- The result of something outside, whose events are not seen. -/
def ofExcept {α : Type} (result : Except Raised α) : Build α := ExceptT.mk (pure result)

end Build

/-- What a compiler gives back: an outcome, or a value that is none. -/
inductive Reply where
  | outcome (result : Outcome)
  | other (value : Json)

/-- Whether there is a document. -/
def Reply.isSuccess : Reply → Bool
  | .outcome result => result.isSuccess
  | .other _ => false

/-- Builds a finished document outside of this process. A compiler may also give nothing back. -/
abbrev Compiler := Framework → SourceSet → Build (Option Reply)

/-- Turns a script with markup in it into a plain one. -/
abbrev ScriptEngine := String → Except Raised String

end WebPreview
