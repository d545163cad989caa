import WebPreview.Text.Casing
import WebPreview.Text.Find

/-! # Logging

A log record has a level, a logger and a message. Every logger stands under one name, and one
console hangs on that name. A level is a number; the usual ones have names.
-/

namespace WebPreview

/-- How much a record matters. -/
abbrev Level := Int

namespace Level

def notSet : Level := 0
def debug : Level := 10
def info : Level := 20
def warning : Level := 30
def error : Level := 40
def critical : Level := 50

/-- The names that stand for a level. -/
def byName : List (String × Level) :=
  [("CRITICAL", critical), ("FATAL", critical), ("ERROR", error), ("WARN", warning),
   ("WARNING", warning), ("INFO", info), ("DEBUG", debug), ("NOTSET", notSet)]

/-- The level of a name. -/
def ofName? (name : String) : Option Level := byName.lookup name

/-- The names that records are written with. -/
def names : List (Level × String) :=
  [(critical, "CRITICAL"), (error, "ERROR"), (warning, "WARNING"), (info, "INFO"),
   (debug, "DEBUG"), (notSet, "NOTSET")]

/-- The name of a level; a level without one is named by its number. -/
def name (level : Level) : String := (names.lookup level).getD ("Level " ++ toString level)

end Level

/-- A message for the log. -/
structure LogRecord where
  level : Level
  logger : String
  message : String
deriving DecidableEq, Repr

namespace Logging

/-- The name that every logger stands under. -/
def rootName : String := "previewkit"

/-- The full name of a logger: names that are not yet under the common one are put there. -/
def loggerName (name : String) : String :=
  if name = "" || name = rootName then rootName
  else if Text.startsWith name (rootName ++ ".") then name
  else rootName ++ "." ++ name

/-- The level that is asked for: that of a name in any case, and informative for any other
text. -/
def levelOfName (name : String) : Level := (Level.ofName? (Text.upper name)).getD .info

/-- The level in force where the console is set to `configured`. A console that is not set, or
set to nothing, leaves the warnings. -/
def effectiveLevel (configured : Option Level) : Level :=
  match configured with
  | some level => if level = .notSet then .warning else level
  | none => .warning

/-- Whether records of the level are made. -/
def isEnabled (configured : Option Level) (level : Level) : Bool :=
  decide (0 < level) && decide (effectiveLevel configured ≤ level)

/-- What stands for the time in the console's lines. -/
def timeMark : String := "<time>"

/-- The line that the console writes. -/
def LogRecord.line (r : LogRecord) : String :=
  timeMark ++ " " ++ r.level.name ++ " " ++ r.logger ++ ": " ++ r.message ++ "\n"

/-- What a record adds to the console: nothing if its level is not in force, and the message
alone if no console is set. -/
def written (configured : Option Level) (r : LogRecord) : String :=
  if !isEnabled configured r.level then ""
  else match configured with
    | some _ => LogRecord.line r
    | none => r.message ++ "\n"

end Logging

end WebPreview
