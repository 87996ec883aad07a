import LogtalkNavigation.Text.Blank
import LogtalkNavigation.Text.Lowercase

namespace LogtalkNavigation

inductive Level where
  | debug
  | info
  | warning
  | error
  | off
deriving DecidableEq, Repr

namespace Level

def rank : Level → Nat
  | .debug => 10
  | .info => 20
  | .warning => 30
  | .error => 40
  | .off => 60

def label : Level → String
  | .debug => "DEBUG"
  | .info => "INFO"
  | .warning => "WARNING"
  | .error => "ERROR"
  | .off => "OFF"

def names : List (String × Level) :=
  [("off", .off), ("error", .error), ("warn", .warning), ("warning", .warning), ("info", .info),
    ("debug", .debug)]

/-- The level of a name, in any case and with blanks around it. What has no name is a warning. -/
def ofName (name : String) : Level :=
  (names.lookup (String.ofList (Text.lower (Text.trim name.toList)))).getD .warning

end Level

structure Log where
  threshold : Level
  entries : List (Level × String)
deriving DecidableEq, Repr

def Log.add (log : Log) (level : Level) (message : String) : Log :=
  if log.threshold.rank ≤ level.rank then { log with entries := log.entries ++ [(level, message)] }
  else log

end LogtalkNavigation
