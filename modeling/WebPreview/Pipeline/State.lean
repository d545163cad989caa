import WebPreview.Assets

/-! # The state of a build

What one run of the pipeline has found out and made so far. A run starts idle and ends done, with
a document, or failed, with a reason.
-/

namespace WebPreview.Pipeline

/-- How far a run is. -/
inductive Stage where
  | idle
  | resolving
  | classifying
  | inProcess
  | outOfProcess
  | assembling
  | done
  | failed
deriving DecidableEq, Repr

namespace Stage

/-- Every stage, in the order in which a run passes them. -/
def all : List Stage :=
  [idle, resolving, classifying, inProcess, outOfProcess, assembling, done, failed]

/-- The identifier of a stage. -/
def id : Stage → String
  | idle => "idle"
  | resolving => "resolving"
  | classifying => "classifying"
  | inProcess => "in_process"
  | outOfProcess => "out_of_process"
  | assembling => "assembling"
  | done => "done"
  | failed => "failed"

/-- The stage with exactly this identifier. -/
def ofId? (id : String) : Option Stage := all.find? (·.id == id)

end Stage

/-- What a run has found out and made so far. -/
structure State where
  /-- The framework, as it was asked for. -/
  frameworkId : String
  files : SourceSet
  stage : Stage
  /-- The framework that is built for, once it is known. -/
  framework : Option Framework
  /-- The files that the framework is built from. -/
  selection : Option Selection
  /-- Whether the entry needs the full compiler. -/
  needsFullCompile : Bool
  /-- What the compiler outside of this process gave back. -/
  remoteOutcome : Option Reply
  /-- Whether the compiler failed and the build went on in this process. -/
  fallbackUsed : Bool
  /-- The script and the style built in this process. -/
  assets : Option Assets
  outcome : Option Outcome
  /-- Every failure on a line of its own, in order. -/
  errors : List String

namespace State

/-- A run that has not started. -/
def start (frameworkId : String) (files : SourceSet) : State :=
  ⟨frameworkId, files, .idle, none, none, false, none, false, none, none, []⟩

/-- A run that has failed. -/
def fail (s : State) (reason : Failure) : State :=
  { s with
    outcome := some (.failure reason), stage := .failed, errors := s.errors ++ [reason.line] }

end State

/-- Where a run goes after a step. -/
inductive Next where
  | classify
  | outOfProcess
  | inProcess
  | assemble
  | stop
deriving DecidableEq, Repr

/-- A run whose files are chosen goes on; one that failed ends. -/
def afterResolve (stage : Option Stage) : Next :=
  if stage = some .failed then .stop else .classify

/-- A complex source goes to the compiler, if there is one. -/
def afterClassify (needsFullCompile hasCompiler : Bool) : Next :=
  if needsFullCompile && hasCompiler then .outOfProcess else .inProcess

/-- A finished document goes straight on; anything else is built in this process. -/
def afterOutOfProcess (reply : Option Reply) : Next :=
  if reply.any (·.isSuccess) then .assemble else .inProcess

/-- A run whose script and style are built goes on; one that failed ends. -/
def afterInProcess (stage : Option Stage) : Next :=
  if stage = some .failed then .stop else .assemble

end WebPreview.Pipeline
