/-
Log records and levels.

A logger has a level, a number, and lets through the records at or above it.  Level zero means
that the logger has none of its own; records then need to be warnings at least.
-/
import SqlGuard.Json.Basic

namespace SqlGuard

/-- How grave a record is. -/
inductive Severity where
  | debug
  | info
  | warning
  | error
deriving DecidableEq

namespace Severity

/-- The name of a severity. -/
def name : Severity → String
  | debug => "DEBUG"
  | info => "INFO"
  | warning => "WARNING"
  | error => "ERROR"

/-- The place of a severity among the levels. -/
def level : Severity → Nat
  | debug => 10
  | info => 20
  | warning => 30
  | error => 40

end Severity

/-- A log record. -/
structure Record where
  severity : Severity
  message : String
  /-- Structured data that goes with the message. -/
  fields : List (String × Json) := []

/-- The levels that have a name. -/
def namedLevels : List (String × Nat) :=
  [("CRITICAL", 50), ("FATAL", 50), ("ERROR", 40), ("WARNING", 30), ("WARN", 30), ("INFO", 20),
    ("DEBUG", 10), ("NOTSET", 0)]

/-- The least severe record that a logger of a given level lets through. -/
def threshold (level : Nat) : Nat :=
  if level = 0 then Severity.warning.level else level

/-- The records that a logger of a given level lets through. -/
def visible (level : Nat) (records : List Record) : List Record :=
  records.filter fun r => threshold level ≤ r.severity.level

/-- A truth value as log messages spell it. -/
def spelled : Bool → String
  | true => "True"
  | false => "False"

end SqlGuard
