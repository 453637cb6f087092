/-!
Log records, and how much of them a run shows.
-/

namespace GoMetrics

inductive Level
  | debug | info | warning | error
  deriving DecidableEq, Repr

namespace Level

def name : Level → String
  | .debug => "DEBUG"
  | .info => "INFO"
  | .warning => "WARNING"
  | .error => "ERROR"

def rank : Level → Nat
  | .debug => 0
  | .info => 1
  | .warning => 2
  | .error => 3

end Level

structure LogRecord where
  level : Level
  message : String
  deriving DecidableEq, Repr

inductive Verbosity
  | quiet | normal | verbose
  deriving DecidableEq, Repr

namespace Verbosity

def name : Verbosity → String
  | .quiet => "quiet"
  | .normal => "normal"
  | .verbose => "verbose"

def ofName? : String → Option Verbosity
  | "quiet" => some .quiet
  | "normal" => some .normal
  | "verbose" => some .verbose
  | _ => none

/-- The lowest level that is shown. -/
def level : Verbosity → Level
  | .quiet => .error
  | .normal => .warning
  | .verbose => .debug

/-- The records that are shown. -/
def shown (v : Verbosity) (log : List LogRecord) : List LogRecord :=
  log.filter fun r => v.level.rank ≤ r.level.rank

end Verbosity

/-- The name of the topmost logger. -/
def rootLogger : String := "go_complexity"

/-- The full name of a logger; every logger is below the topmost one. -/
def loggerName : Option String → String
  | none => rootLogger
  | some name => if name.startsWith rootLogger then name else rootLogger ++ "." ++ name

end GoMetrics
