/-!
Log lines: what the collector says about its work, next to what it does.
-/

namespace Telemetry.Log

inductive Level where
  | error
  | warn
  | info
  | debug
  | trace
deriving DecidableEq, Repr

def Level.name : Level → String
  | error => "ERROR"
  | warn => "WARN"
  | info => "INFO"
  | debug => "DEBUG"
  | trace => "TRACE"

structure Line where
  level : Level
  text : String
deriving DecidableEq, Repr

/-- The level, a blank, and the text. -/
def Line.render (l : Line) : String := l.level.name ++ " " ++ l.text

end Telemetry.Log
