import TaskPipeline.Text.Blank
import TaskPipeline.Text.LowerCase

/-!
# Log lines

A log line has a level, and only lines from a chosen level on are written.  The level comes from the
command line, else from the environment, else from the settings of the workspace; a text that names
no level counts as none.
-/

namespace TaskPipeline

/-- How much a log line matters. -/
inductive LogLevel where
  | error
  | warn
  | info
  | debug
  | trace
deriving DecidableEq

namespace LogLevel

/-- All levels, the most important first. -/
def all : List LogLevel := [error, warn, info, debug, trace]

/-- The name of a level. -/
def name : LogLevel → String
  | error => "error"
  | warn => "warn"
  | info => "info"
  | debug => "debug"
  | trace => "trace"

/-- The name of a level in log lines. -/
def label : LogLevel → String
  | error => "ERROR"
  | warn => "WARN"
  | info => "INFO"
  | debug => "DEBUG"
  | trace => "TRACE"

/-- The place of a level among all levels. -/
def rank : LogLevel → Nat
  | error => 0
  | warn => 1
  | info => 2
  | debug => 3
  | trace => 4

/-- Whether lines of a level are written when lines are written down to a limit. -/
def isWritten (level limit : LogLevel) : Bool := level.rank ≤ limit.rank

/-- The level with exactly this name. -/
def ofName? (s : String) : Option LogLevel := all.find? (·.name == s)

/-- Reads the name of a level, in either case and with blanks around it. -/
def read? (s : String) : Option LogLevel :=
  let s := Text.lowerCase (Text.trim s)
  if s = "warning" then some warn else ofName? s

/-- The first level that is given: on the command line, by the environment, by the settings. -/
def choose (given : Option LogLevel) (environment settings : Option String) : LogLevel :=
  ((given <|> environment >>= read?) <|> settings >>= read?).getD info

end LogLevel

/-- How long something took, as log lines say it: in whole milliseconds.  A time that is too long for
a 64-bit word counts as the longest one that is not. -/
def Log.milliseconds (seconds nanoseconds : Nat) : Nat :=
  min (seconds * 1000 + nanoseconds / 1000000) (UInt64.size - 1)

/-- A log line. -/
structure LogLine where
  /-- How much it matters. -/
  level : LogLevel
  /-- What it says. -/
  text : String

end TaskPipeline
