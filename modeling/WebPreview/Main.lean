import WebPreview.Json.Printer
import WebPreview.Service
import WebPreview.Service.Launch

/-! # The program

A compile service over standard streams: every line of input is the body of a compile request, and
every answer is one line of output. Sources are left to the runtime in the browser, because no
script engine is at hand, and projects that need a compiler are told that there is none.
-/

namespace WebPreview.Main

/-- The names that the configuration looks at. -/
def names : List String :=
  [Config.urlVariable, Config.compilerTimeoutVariable, Config.imageVariable,
   Config.toolchainTimeoutVariable, Config.installTimeoutVariable, Config.logLevelVariable]

/-- The environment, as far as it matters. -/
def environment : IO Environment := do
  let pairs ← names.filterMapM fun name => do
    return (← IO.getEnv name).map fun value => (name, value)
  return Keyed.ofList pairs

/-- The engine that refuses every source. -/
def noEngine : ScriptEngine := fun _ => .error (.scriptEngine "no script engine")

/-- A torn document is a fault that nobody handles. -/
def refuse : HttpRequest → Build Answer := fun _ => return Service.internalError

/-- The line that answers a request. -/
def answerLine (toolchain : Toolchain) (body : String) : String :=
  let request : HttpRequest := { body := body.toUTF8.toList }
  let step := Service.handle noEngine (toolchain.compiler .absent) refuse request
  match step.run.value with
  | .ok ⟨_, .json v⟩ => Json.print v
  | .ok ⟨_, .text s⟩ => s
  | .error fault => fault.message

/-- Answers requests until the input ends. -/
partial def serve (toolchain : Toolchain) (input output : IO.FS.Stream) : IO Unit := do
  let line ← input.getLine
  if line.isEmpty then return
  output.putStrLn (answerLine toolchain line)
  output.flush
  serve toolchain input output

end WebPreview.Main

/-- Starts the service. -/
def main (arguments : List String) : IO UInt32 := do
  let environment ← WebPreview.Main.environment
  match WebPreview.Service.start { env := environment } arguments with
  | .launched launch =>
    WebPreview.Main.serve launch.toolchain (← IO.getStdin) (← IO.getStdout)
    return 0
  | .exited exit =>
    IO.print exit.output
    IO.eprint exit.errors
    return exit.code.toUInt32
  | .misconfigured e =>
    IO.eprintln e.message
    return 1
