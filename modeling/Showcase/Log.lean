/-!
# Log entries

What the browser reports about its work while it works. No operation here prints: each
says which entries it causes, in order, and an outer layer decides what becomes of them.
-/

namespace Showcase

/-- How much an entry matters, from a failure down to a detail. -/
inductive LogLevel
  | error
  | warn
  | info
  | debug
  | trace
  deriving DecidableEq, Repr, Inhabited

/-- One reported line. -/
structure LogEntry where
  level : LogLevel
  message : String
  deriving DecidableEq, Repr, Inhabited

namespace LogLevel

def name : LogLevel → String
  | error => "error"
  | warn => "warn"
  | info => "info"
  | debug => "debug"
  | trace => "trace"

end LogLevel

end Showcase
