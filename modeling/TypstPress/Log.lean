/-!
# Log records

The library reports what it does as records of a severity, the name of the part that speaks and a
message. Nothing is printed where a record arises: results carry their records in order, and the
command line decides which of them are shown.
-/

namespace TypstPress

/-- How serious a record is. -/
inductive Severity where
  | debug
  | info
  | warning
  | error
  | critical
deriving DecidableEq, Repr, Inhabited

namespace Severity

/-- The position of the severity on the scale of levels. -/
def level : Severity → Int
  | .debug => 10
  | .info => 20
  | .warning => 30
  | .error => 40
  | .critical => 50

/-- The name that records show. -/
def name : Severity → String
  | .debug => "DEBUG"
  | .info => "INFO"
  | .warning => "WARNING"
  | .error => "ERROR"
  | .critical => "CRITICAL"

/-- The severity of a name, if there is one. -/
def ofName? (name : String) : Option Severity :=
  [debug, info, warning, error, critical].find? (·.name == name)

end Severity

/-- A record: its severity, the part of the library that wrote it, and the message. -/
structure Record where
  severity : Severity
  speaker : String
  message : String
deriving DecidableEq, Repr, Inhabited

/-- Records in the order in which they arose. -/
abbrev Log := List Record

/-- The records at or above a level. -/
def Log.atLeast (level : Int) (log : Log) : Log := log.filter (level ≤ ·.severity.level)

end TypstPress
