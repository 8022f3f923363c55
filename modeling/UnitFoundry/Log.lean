/-!
# Log records

Each part of the library writes its records to a channel of its own. A record is kept when its
severity reaches the level in effect.
-/

namespace UnitFoundry

/-- How grave a log record is. -/
inductive Severity where
  | debug
  | info
  | warning
  | error
  | critical
  deriving Repr, DecidableEq

namespace Severity

/-- The order of severities. -/
def rank : Severity → Nat
  | debug => 10
  | info => 20
  | warning => 30
  | error => 40
  | critical => 50

/-- The name of a severity in a log line. -/
def label : Severity → String
  | debug => "DEBUG"
  | info => "INFO"
  | warning => "WARNING"
  | error => "ERROR"
  | critical => "CRITICAL"

/-- All severities. -/
def all : List Severity := [debug, info, warning, error, critical]

/-- The severity with a given name. -/
def ofLabel? (s : String) : Option Severity := all.find? (·.label = s)

/-- Whether a record of the first severity is kept at the second level. -/
def reaches (severity level : Severity) : Bool := level.rank ≤ severity.rank

end Severity

/-- The part of the library that wrote a record. -/
inductive Channel where
  | compiler
  | files
  | loading
  | resources
  | store
  | diagnostics
  | builtin
  | discovery
  deriving Repr, DecidableEq

/-- The name of a channel in a log line. -/
def Channel.name : Channel → String
  | compiler => "livecompile.compiler"
  | files => "livecompile.file_manager"
  | loading => "livecompile.loading"
  | resources => "livecompile.resources"
  | store => "livecompile.store"
  | diagnostics => "livecompile.diagnostics"
  | builtin => "livecompile.backends.python"
  | discovery => "livecompile.backends.loader"

/-- One log record. -/
structure Record where
  severity : Severity
  channel : Channel
  text : String
  deriving Repr, DecidableEq

/-- A record as one log line. -/
def Record.line (r : Record) : String :=
  r.severity.label ++ " " ++ r.channel.name ++ ": " ++ r.text

/-- A log with one record more, if the level in effect lets it through. -/
def record (level : Severity) (log : List Record) (r : Record) : List Record :=
  if r.severity.reaches level then log ++ [r] else log

end UnitFoundry
