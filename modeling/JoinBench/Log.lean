/-!
# The log

Lines with a level.  The echoed output of the helper unit is told apart from the harness's own
lines.
-/

namespace JoinBench

/-- The importance of a log line. -/
inductive Level where
  | error
  | warn
  | info
  | debug
  | trace
deriving DecidableEq, Inhabited, Repr

namespace Level

/-- The name of a level. -/
def name : Level → String
  | error => "ERROR"
  | warn => "WARN"
  | info => "INFO"
  | debug => "DEBUG"
  | trace => "TRACE"

/-- How much a level lets through: itself and everything more important. -/
def verbosity : Level → Nat
  | error => 1
  | warn => 2
  | info => 3
  | debug => 4
  | trace => 5

end Level

/-- Whose words a log line repeats. -/
inductive Speaker where
  | harness
  | helper
deriving DecidableEq, Inhabited, Repr

/-- A log line. -/
structure LogLine where
  level : Level
  speaker : Speaker
  message : String
deriving DecidableEq, Inhabited, Repr

namespace LogLine

/-- A line of the harness. -/
def of (level : Level) (message : String) : LogLine :=
  ⟨level, .harness, message⟩

/-- The level and the message. -/
def display (line : LogLine) : String :=
  line.level.name ++ " " ++ line.message

end LogLine

/-- How much is logged: `none` is nothing at all. -/
abbrev LogFilter := Option Level

/-- A text with its ASCII letters in lower case. -/
def asciiLower (s : String) : String :=
  s.map Char.toLower

/-- The filter that a setting names, in letters of either case; other settings mean the usual
one, `info`. -/
def LogFilter.ofSetting (setting : String) : LogFilter :=
  match asciiLower setting with
  | "off" => none
  | "error" => some .error
  | "warn" => some .warn
  | "debug" => some .debug
  | "trace" => some .trace
  | _ => some .info

/-- Whether a filter lets a line through. -/
def LogFilter.passes (filter : LogFilter) (line : LogLine) : Bool :=
  match filter with
  | none => false
  | some level => line.level.verbosity ≤ level.verbosity

end JoinBench
