/-!
# Log lines

What a run tells about its work, as data. A line has a severity and a text.
-/

namespace ApiStubs

/-- How much a log line matters. -/
inductive Severity where
  /-- A detail of the work. -/
  | debug
  /-- Progress. -/
  | info
  /-- Something was left out. -/
  | warn
  /-- Something failed. -/
  | error
  deriving Repr, DecidableEq

/-- The word for a severity. -/
def Severity.word : Severity → String
  | .debug => "DEBUG"
  | .info => "INFO"
  | .warn => "WARN"
  | .error => "ERROR"

/-- A line of the log. -/
structure LogLine where
  /-- How much it matters. -/
  severity : Severity
  /-- What it says. -/
  text : String
  deriving Repr, DecidableEq

/-- The line with its severity in front. -/
def LogLine.render (l : LogLine) : String :=
  l.severity.word ++ " " ++ l.text

end ApiStubs
