/-!
Lines of the progress log.
-/

namespace KeyRelay

inductive Level where
  | debug
  | info
  | warn
  | error
  deriving DecidableEq, Repr

def Level.name : Level → String
  | .debug => "DEBUG"
  | .info => "INFO"
  | .warn => "WARN"
  | .error => "ERROR"

structure LogLine where
  level : Level
  text : String
  deriving DecidableEq, Repr

namespace LogLine

/-- Lines for developers are shown on request only. -/
def isShown (verbose : Bool) (l : LogLine) : Bool :=
  verbose || l.level ≠ .debug

end LogLine

end KeyRelay
