import WebPreview.Remote
import WebPreview.Service.CommandLine
import WebPreview.Settings
import WebPreview.Toolchain.Compile

/-! # Starting the service

What a configuration makes of the compilers, and what the service is started with.
-/

namespace WebPreview

/-- Where the toolchain makes the project directory unless told otherwise. -/
def Toolchain.usualDirectory : String := "/tmp/previewkit_projects"

/-- The compile service that a configuration names, if it names one. -/
def Config.remote? (c : Config) : Option Remote :=
  c.compilerUrl.map fun url => .ofUrl url (.real c.compilerTimeout)

/-- The toolchain that a configuration describes. -/
def Config.toolchain (c : Config) : Toolchain where
  image := c.toolchainImage
  buildLimit := .real c.toolchainTimeout
  installLimit := .real c.installTimeout
  directory := Toolchain.usualDirectory

namespace Service

/-- The levels that the web server has a name for. -/
def serverLevels : List String := ["critical", "error", "warning", "info", "debug", "trace"]

/-- The level that the web server is told; its usual one if it does not know the configured one. -/
def serverLevel (c : Config) : String :=
  let name := Text.lower c.logLevel
  if serverLevels.contains name then name else "info"

/-- What the service is started with. -/
structure Launch where
  host : String
  port : Int
  serverLevel : String
  toolchain : Toolchain
  /-- The level of the service's own log. -/
  level : Level

/-- How an attempt to start ends. -/
inductive Start where
  | launched (launch : Launch)
  | exited (exit : CommandLine.Exit)
  | misconfigured (error : ConfigError)

/-- What the options and a configuration start. -/
def Launch.of (o : CommandLine.Options) (c : Config) : Launch where
  host := o.host
  port := o.port
  serverLevel := Service.serverLevel c
  toolchain := c.toolchain
  level := Logging.levelOfName c.logLevel

/-- Starts the service. The arguments are looked at before the configuration. -/
def start (settings : Settings) (arguments : List String) : Start :=
  match CommandLine.parse arguments with
  | .error exit => .exited exit
  | .ok options =>
    match settings.config.2 with
    | .error e => .misconfigured e
    | .ok (_, config) => .launched (.of options config)

end Service

end WebPreview
