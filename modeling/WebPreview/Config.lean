import WebPreview.Decimal.Layout
import WebPreview.Decimal.Read
import WebPreview.Environment
import WebPreview.Logging
import WebPreview.Text.Quoted

/-! # Configuration

What the environment says about the compile service, the toolchain and the log. A name that
is missing or empty leaves the usual value; a value that cannot be used is an error. All that is
unusable is told at once, a time limit that is no number excepted: it is told alone.
-/

namespace WebPreview

/-- The configuration of the application. -/
structure Config where
  /-- Where the compile service is, if there is one. -/
  compilerUrl : Option String
  compilerTimeout : Float
  toolchainImage : String
  toolchainTimeout : Float
  installTimeout : Float
  logLevel : String

/-- What is unusable in a configuration. -/
inductive Config.Problem where
  | notPositive (name : String)
  | noHttpUrl
  | noLevel (name : String)
deriving DecidableEq, Repr

/-- Why there is no configuration. -/
inductive ConfigError where
  | noNumber (name value : String)
  | invalid (problems : List Config.Problem)
  /-- The settings file binds a variable that cannot be set. -/
  | unsettable (fault : VariableFault)
deriving DecidableEq, Repr

namespace Config

/-- The name of the service's URL. -/
def urlVariable : String := "PREVIEWKIT_COMPILER_URL"

/-- The name of the time limit for the service. -/
def compilerTimeoutVariable : String := "PREVIEWKIT_COMPILER_TIMEOUT"

/-- The name of the container image. -/
def imageVariable : String := "PREVIEWKIT_TOOLCHAIN_IMAGE"

/-- The name of the time limit for bundling. -/
def toolchainTimeoutVariable : String := "PREVIEWKIT_TOOLCHAIN_TIMEOUT"

/-- The name of the time limit for installing. -/
def installTimeoutVariable : String := "PREVIEWKIT_INSTALL_TIMEOUT"

/-- The name of the log level. -/
def logLevelVariable : String := "PREVIEWKIT_LOG_LEVEL"

/-- How long to wait for the service. -/
def defaultCompilerTimeout : Float := 10.0

/-- The image that holds the toolchain. -/
def defaultImage : String := "node:18-slim"

/-- How long bundling may take. -/
def defaultToolchainTimeout : Float := 120.0

/-- How long installing may take. -/
def defaultInstallTimeout : Float := 180.0

/-- What is wrong, in words. -/
def Problem.message : Problem → String
  | notPositive name => name ++ " must be positive"
  | noHttpUrl => urlVariable ++ " must start with http:// or https://"
  | noLevel name => logLevelVariable ++ " is not a log level: " ++ name

/-- The value of a name, unless it is empty. -/
def nonEmpty? (env : Environment) (name : String) : Option String :=
  (env.get? name).filter (· != "")

/-- A time limit; the usual one if the name holds nothing but blanks. -/
def readSeconds (env : Environment) (name : String) (usual : Float) :
    Except ConfigError Float :=
  match (env.get? name).filter (!Text.isBlankText ·) with
  | none => .ok usual
  | some raw =>
    match Decimal.read? raw with
    | some seconds => .ok seconds
    | none => .error (.noNumber name raw)

/-- Whether a URL is one of a service. -/
def isHttpUrl (url : String) : Bool :=
  Text.startsWith url "http://" || Text.startsWith url "https://"

/-- Whether a time limit is refused. -/
def isTooShort (seconds : Float) : Bool := seconds ≤ 0.0

/-- All that is unusable, in order. -/
def problems (c : Config) : List Problem :=
  ([(compilerTimeoutVariable, c.compilerTimeout), (toolchainTimeoutVariable, c.toolchainTimeout),
      (installTimeoutVariable, c.installTimeout)].filterMap fun (name, seconds) =>
        if isTooShort seconds then some (.notPositive name) else none)
    ++ (if c.compilerUrl.all isHttpUrl then [] else [.noHttpUrl])
    ++ (if (Level.ofName? c.logLevel).isSome then [] else [.noLevel c.logLevel])

/-- The configuration that an environment gives, usable or not. -/
def read (env : Environment) : Except ConfigError Config := do
  let compilerTimeout ← readSeconds env compilerTimeoutVariable defaultCompilerTimeout
  let toolchainTimeout ← readSeconds env toolchainTimeoutVariable defaultToolchainTimeout
  let installTimeout ← readSeconds env installTimeoutVariable defaultInstallTimeout
  return {
    compilerUrl := nonEmpty? env urlVariable
    compilerTimeout, toolchainTimeout, installTimeout
    toolchainImage := (nonEmpty? env imageVariable).getD defaultImage
    logLevel := Text.upper ((nonEmpty? env logLevelVariable).getD "INFO") }

/-- The configuration that an environment gives, if it can be used. -/
def ofEnvironment (env : Environment) : Except ConfigError Config := do
  let config ← read env
  match config.problems with
  | [] => return config
  | problems => .error (.invalid problems)

end Config

/-- What is wrong, in words. -/
def ConfigError.message : ConfigError → String
  | noNumber name value =>
    name ++ " must be a number of seconds, got " ++ Text.quoted value
  | invalid problems =>
    "Invalid configuration:\n- "
      ++ String.intercalate "\n- " (problems.map Config.Problem.message)
      ++ "\nSee .env.example for reference."
  | unsettable fault => fault.message

end WebPreview
