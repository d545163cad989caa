import WebPreview.Event
import WebPreview.Toolchain.Project

/-! # Commands of the toolchain

What the two containers of a build run: the first installs the compilers below the project, the
second bundles the project and prints the result. The entry's name is the only thing in either
command that comes from outside, and it is written so that the shell reads it as one word.
-/

namespace WebPreview

namespace Shell

/-- Whether a character stands for itself outside of quotes. -/
def isPlain (c : Char) : Bool := c.isAlphanum || "_@%+=:,./-".toList.contains c

/-- How a character stands between single quotes. A single quote leaves them, stands between
double ones, and enters them again. -/
def quoteChar (c : Char) : List Char :=
  if c = '\'' then ['\'', '"', '\'', '"', '\''] else [c]

/-- A word as it stands in a command. -/
def quoteChars (word : List Char) : List Char :=
  if !word.isEmpty && word.all isPlain then word
  else '\'' :: word.flatMap quoteChar ++ ['\'']

/-- A word as it stands in a command. -/
def quote (word : String) : String := String.ofList (quoteChars word.toList)

end Shell

namespace Toolchain

/-- The compilers, at versions that keep to what the build script calls. -/
def packages : List String := ["esbuild@0.19", "react@18", "react-dom@18", "vue@3.3", "svelte@4"]

/-- The directory below the project that the compilers are installed into. -/
def modulesPath : String :=
  ContainerSpec.workingDir ++ "/" ++ Project.toolchainDir ++ "/node_modules"

/-- Installs the compilers. -/
def installCommand : String :=
  "cd " ++ Project.toolchainDir ++ " && npm install --silent --no-audit --no-fund "
    ++ String.intercalate " " packages

/-- Bundles the project and prints the result. -/
def runCommand (framework : Framework) (entry : String) : String :=
  String.intercalate " "
    ["node", Project.toolchainDir ++ "/" ++ Project.scriptName, framework.id, Shell.quote entry,
     modulesPath]

/-- A command line for the shell. -/
def shellCommand (command : String) : List String := ["sh", "-c", command]

end Toolchain

end WebPreview
